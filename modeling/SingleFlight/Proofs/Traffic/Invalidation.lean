import SingleFlight.Proofs.Traffic.Condemned
import SingleFlight.Proofs.Traffic.Departed
import SingleFlight.Proofs.Traffic.Origins
import SingleFlight.Proofs.Traffic.Returns

namespace SingleFlight

/-- A removal has taken a key out, or is about to. -/
def Removal.Phase.Clears (phase : Removal.Phase) (segments : Segments) (key : String) : Prop :=
  match phase with
  | .taking name => name = key
  | .clearing numbers _ => (segments.index key).val ∈ numbers ∨ segments.lookup key = none
  | .counting _ | .finished _ => segments.lookup key = none

theorem Removal.clears_step {phase : Removal.Phase} {cache : Cache} {key : String}
    (clears : phase.Clears cache.store.segments key) :
    (step phase cache).1.Clears (step phase cache).2.store.segments key := by
  cases phase with
  | taking name =>
      obtain rfl : name = key := clears
      have gone : (cache.store.take name).2.lookup name = none := by simp [Store.lookup_take]
      simp only [step]
      split <;> exact gone
  | clearing numbers removed =>
      cases numbers with
      | nil => exact clears.resolve_left List.not_mem_nil
      | cons number rest =>
          have place : ((cache.store.segments.clearAt number).index key).val =
              (cache.store.segments.index key).val := by
            simp [Segments.clearAt, Segments.index, Segments.setTableAt]
          simp only [step, Phase.Clears, Segments.lookup_clearAt, place]
          simp only [Phase.Clears, List.mem_cons] at clears
          rcases clears with (here | later) | gone
          · exact .inr (if_pos here)
          · exact .inl later
          · right
            split
            · rfl
            · exact gone
  | counting removed => exact clears
  | finished removed => exact clears

namespace Traffic

/-- Moves that end with an uninterrupted removal of a key. -/
inductive Invalidates (start : Traffic) (key : String) : List Move → Prop where
  | evicted {passed : List Move} {entry : EntryId} {moment : Moment}
      (taken : ((start.run passed).cache.store.evict key entry).1 = true) :
      Invalidates start key (passed ++ [⟨.evict key entry, moment⟩])
  | removed {passed steps : List Move} {moment : Moment} {asked : Removal} {count : Nat}
      (names : asked = .key key ∨ asked = .all)
      (own : ∀ move ∈ steps, move.proceeds (start.run passed).calls.length = true)
      (isOver : (start.run (passed ++ ⟨.begin (.removal asked), moment⟩ :: steps)).calls[
        (start.run passed).calls.length]? = some (.removal (.finished count))) :
      Invalidates start key (passed ++ ⟨.begin (.removal asked), moment⟩ :: steps)

variable {traffic start : Traffic} {key : String} {move : Move} {entry : EntryId}

/-- A removal that makes its steps takes its key out. -/
theorem clears_run (traffic : Traffic) {number : Nat} {phase : Removal.Phase} {moves : List Move}
    (own : ∀ move ∈ moves, Move.proceeds move number = true)
    (there : traffic.calls[number]? = some (.removal phase))
    (clears : phase.Clears traffic.cache.store.segments key) :
    ∃ last, (traffic.run moves).calls[number]? = some (.removal last) ∧
      last.Clears (traffic.run moves).cache.store.segments key := by
  induction moves generalizing traffic phase with
  | nil => exact ⟨phase, there, clears⟩
  | cons move rest ih =>
      have bound := (List.getElem?_eq_some_iff.mp there).1
      have step := take_of_proceeds (own move List.mem_cons_self) there
      have next : (traffic.take move).calls[number]? =
          some (.removal (Removal.step phase traffic.cache).1) := by
        rw [step]
        simp [Call.step, bound]
      refine ih (traffic.take move) (fun other inside => own other (List.mem_cons_of_mem move inside)) next ?_
      rw [step]
      exact Removal.clears_step clears

/-- A removal that names a key takes it out before it is over. -/
theorem clears_start {asked : Removal} (names : asked = .key key ∨ asked = .all)
    (segments : Segments) : (asked.start segments.count).Clears segments key := by
  rcases names with rfl | rfl
  · rfl
  · exact .inl (List.mem_range.mpr (segments.index key).isLt)

/-- After an explicit removal of a key the key is absent. -/
theorem Invalidates.absent {before : List Move} (invalidates : start.Invalidates key before) :
    (start.run before).lookup key = none := by
  cases invalidates with
  | @evicted passed entry moment taken =>
      have current : (start.run passed).cache.store.lookup key = some entry := by
        unfold Store.evict at taken
        split at taken
        · assumption
        · cases taken
      rw [run_append]
      simp [take, lookup, Store.lookup_evict, current]
  | @removed passed steps moment asked count names own isOver =>
      rw [run_append, run_cons] at isOver ⊢
      have begins : (start.run passed).take ⟨.begin (.removal asked), moment⟩ =
          ⟨(start.run passed).cache, (start.run passed).calls ++
            [.removal (asked.start (start.run passed).cache.store.segments.count)]⟩ := by
        simp [take, admits, Task.start]
      rw [begins] at isOver ⊢
      have clears := clears_start names (start.run passed).cache.store.segments
      obtain ⟨last, there, clears⟩ := clears_run ⟨(start.run passed).cache, _⟩ own
        List.getElem?_concat_length clears
      rw [isOver] at there
      cases there
      exact clears

/-- A content was committed before the move of a number. -/
def IsOld (origin : Option Nat) (time : Nat) : Prop := ∃ number, origin = some number ∧ number < time

theorem not_isOld_none (time : Nat) : ¬ IsOld none time := by
  rintro ⟨_, nothing, -⟩
  cases nothing

end Traffic

/-- The move that committed the content a lookup is bringing to its key. -/
def Lookup.Phase.origin? (phase : Phase) (origins : Origins) (number : Nat) : Option Nat :=
  match phase with
  | .timing found | .judging found _ | .copying found => origins.content found
  | .stamping _ _ => origins.copied number
  | .swapping _ candidate => origins.content candidate
  | .finding | .finished _ => none

/-- After a step a key has its entry, or a new one, or a copy. -/
theorem Call.Effect.placed_cases {call next : Call} {moment : Moment} {cache after : Cache}
    (effect : call.Effect moment cache next after) {key : String} {entry : EntryId}
    (maps : after.store.lookup key = some entry) :
    cache.store.lookup key = some entry ∨
    (∃ asked, call = .lookup asked .finding ∧ entry = cache.heap.next) ∨
    ∃ asked found, call = .lookup asked (.swapping found entry) ∧ asked.key = key ∧
      (cache.store.lookup key = some found ∨ cache.store.lookup key = none) := by
  cases effect with
  | quiet mapping => exact .inl ((mapping key).symm.trans maps)
  | @created asked now starts absent read =>
      rw [Store.lookup_create] at maps
      split at maps
      · exact .inr (.inl ⟨asked, starts, (Option.some.inj maps).symm⟩)
      · exact .inl maps
  | stamped => exact .inl maps
  | copied => exact .inl maps
  | @replaced asked found candidate starts vacant =>
      rw [Store.lookup_replace] at maps
      split at maps
      · next same =>
          obtain rfl := Option.some.inj maps
          exact .inr (.inr ⟨asked, found, starts, same.symm, same ▸ vacant⟩)
      · exact .inl maps
  | evicted starts current =>
      rw [Store.lookup_evict] at maps
      split at maps
      · cases maps
      · exact .inl maps
  | removed starts mapping =>
      rcases mapping key with same | gone
      · exact .inl (same.symm.trans maps)
      · rw [gone] at maps
        cases maps

/-- A lookup keeps to the entry it has found. -/
theorem Lookup.found_step {asked : Lookup} {phase : Phase} {found : EntryId} (moment : Moment)
    (cache : Cache) (works : (Call.lookup asked phase).found? = some found) :
    (∃ outcome, (asked.step phase moment cache).1 = .finished outcome) ∨
      (Call.lookup asked (asked.step phase moment cache).1).found? = some found := by
  cases phase with
  | finding => cases works
  | timing entry | stamping entry _ =>
      simp only [step]
      split
      · exact .inl ⟨_, rfl⟩
      · exact .inr works
  | judging entry now =>
      simp only [step]
      split
      · exact .inr works
      · exact .inl ⟨_, rfl⟩
  | copying entry => exact .inr works
  | swapping entry candidate =>
      simp only [step, swap]
      split
      · split <;> exact .inl ⟨_, rfl⟩
      · exact .inl ⟨_, rfl⟩
  | finished outcome => exact .inl ⟨outcome, rfl⟩

namespace Origins
variable {origins : Origins} {traffic : Traffic} {move : Move} {number time : Nat}

/-- An entry that is there gets no old content any more. -/
theorem isOld_take (late : time ≤ number) {entry : EntryId}
    (known : traffic.cache.heap.holds entry = true)
    (old : Traffic.IsOld ((origins.take traffic move number).content entry) time) :
    Traffic.IsOld (origins.content entry) time := by
  obtain ⟨named, same, before⟩ := old
  simp only [take] at same
  split at same
  · obtain rfl := Option.some.inj same
    omega
  · rw [if_neg (Heap.ne_next_of_holds _ known)] at same
    exact ⟨named, same, before⟩

end Origins

namespace Traffic

/-- A lookup had found an entry by a time in the past. -/
def Lingers (past : Traffic) (number : Nat) (asked : Lookup) (found : EntryId) : Prop :=
  ∃ phase, past.calls[number]? = some (.lookup asked phase) ∧
    (Call.lookup asked phase).found? = some found

/-- Neither a key nor a later lookup of it has an old content. -/
structure Sticks (past traffic : Traffic) (origins : Origins) (key : String) (time : Nat) : Prop where
  entry : ∀ entry, traffic.lookup key = some entry → ¬ IsOld (origins.content entry) time
  calls : ∀ (number : Nat) asked phase, traffic.calls[number]? = some (.lookup asked phase) →
    asked.key = key → ¬ IsOld (phase.origin? origins number) time ∨
      ∃ found, past.Lingers number asked found ∧ (Call.lookup asked phase).found? = some found

/-- A lookup from the past puts an old content at the absent key. -/
def Revives (past traffic : Traffic) (origins : Origins) (key : String) (time : Nat) (move : Move) :
    Prop :=
  ∃ number asked found candidate, move.proceeds number = true ∧ asked.key = key ∧
    past.Lingers number asked found ∧
    traffic.calls[number]? = some (.lookup asked (.swapping found candidate)) ∧
    traffic.lookup key = none ∧ IsOld (origins.content candidate) time

variable {past traffic start : Traffic} {origins : Origins} {key : String} {time count : Nat}
  {move : Move} {entry : EntryId}

/-- An absent key never regains an entry that was found before. -/
theorem not_mapped_of_lingers (sound : past.Sound) (absent : past.lookup key = none)
    {number : Nat} {asked : Lookup} {found : EntryId} (lingers : past.Lingers number asked found)
    (moves : List Move) : (past.run moves).lookup key ≠ some found := by
  intro maps
  obtain ⟨phase, there, works⟩ := lingers
  have shown := sound.found _ (List.mem_of_getElem? there) found works
  rw [lookup_of_run shown maps] at absent
  cases absent

namespace Sticks

/-- The entry of the key gets no old content. -/
theorem entry_stays (sticks : past.Sticks traffic origins key time) (sound : traffic.Sound)
    (late : time ≤ count) (move : Move) (there : traffic.lookup key = some entry) :
    ¬ IsOld ((origins.take traffic move count).content entry) time := by
  have known := holds_of_isShown (sound.mapped key entry there)
  exact fun old => sticks.entry entry there (Origins.isOld_take late known old)

/-- A step brings no old content to the key unless it revives one. -/
theorem entry_proceed (sticks : past.Sticks traffic origins key time) (sound : traffic.Sound)
    (gone : ∀ number asked found, past.Lingers number asked found → traffic.lookup key ≠ some found)
    (late : time ≤ count) {number : Nat} {moment : Moment} {call : Call}
    (place : traffic.calls[number]? = some call)
    (revives : ¬ past.Revives traffic origins key time ⟨.proceed number, moment⟩)
    (maps : (call.step moment traffic.cache).2.store.lookup key = some entry) :
    ¬ IsOld ((origins.take traffic ⟨.proceed number, moment⟩ count).content entry) time := by
  rcases (Call.effect_step moment _ call).placed_cases maps with there | ⟨asked, rfl, rfl⟩ |
    ⟨asked, found, rfl, rfl, vacant⟩
  · exact sticks.entry_stays sound late _ there
  · rintro ⟨named, origin, -⟩
    simp [Origins.take, written?, makes?, place, Call.imprint?] at origin
  · intro later
    have hidden := (sound.hidden _ (List.mem_of_getElem? place) entry rfl).1
    have old := Origins.isOld_take late hidden later
    rcases sticks.calls number asked _ place rfl with fresh | ⟨other, lingers, same⟩
    · exact fresh old
    · obtain rfl : found = other := by simpa [Call.found?] using same
      rcases vacant with current | absent
      · exact gone number asked found lingers current
      · exact revives ⟨number, asked, found, entry, by simp [Move.proceeds], rfl, lingers, place,
          absent, old⟩

theorem entry_take (sticks : past.Sticks traffic origins key time) (sound : traffic.Sound)
    (gone : ∀ number asked found, past.Lingers number asked found → traffic.lookup key ≠ some found)
    (late : time ≤ count) (revives : ¬ past.Revives traffic origins key time move)
    (maps : (traffic.take move).lookup key = some entry) :
    ¬ IsOld ((origins.take traffic move count).content entry) time := by
  have kept (there : traffic.lookup key = some entry) :=
    sticks.entry_stays sound late move there
  obtain ⟨action, moment⟩ := move
  cases action with
  | begin task =>
      refine kept ?_
      simp only [take] at maps
      split at maps <;> exact maps
  | acquire _ _ _ | commit _ _ _ _ | release _ _ =>
      refine kept ?_
      simp only [take, lookup, Store.lookup] at maps
      rwa [segments_onEntry] at maps
  | evict name target =>
      refine kept ?_
      simp only [take, lookup, Store.lookup_evict] at maps
      split at maps
      · cases maps
      · exact maps
  | proceed number =>
      cases place : traffic.calls[number]? with
      | none =>
          have same : traffic.take ⟨.proceed number, moment⟩ = traffic := by simp [take, place]
          exact kept (by rwa [same] at maps)
      | some call =>
          rw [take_proceed place] at maps
          exact sticks.entry_proceed sound gone late place revives maps

/-- A later lookup brings no old content. -/
theorem origin_step (sticks : past.Sticks traffic origins key time) (sound : traffic.Sound)
    (late : time ≤ count) {number : Nat} {asked : Lookup} {phase : Lookup.Phase}
    (own : move.proceeds number = true)
    (place : traffic.calls[number]? = some (.lookup asked phase)) (named : asked.key = key)
    (fresh : ¬ IsOld (phase.origin? origins number) time) :
    ¬ IsOld ((asked.step phase move.moment traffic.cache).1.origin?
      (origins.take traffic move count) number) time := by
  have nothing := not_isOld_none time
  have kept (found : EntryId) (works : (Call.lookup asked phase).found? = some found)
      (fresh : ¬ IsOld (origins.content found) time) :
      ¬ IsOld ((origins.take traffic move count).content found) time := fun old =>
    fresh (Origins.isOld_take late
      (holds_of_isShown (sound.found _ (List.mem_of_getElem? place) found works)) old)
  cases phase with
  | finding =>
      simp only [Lookup.step, Lookup.find]
      split
      · next found maps =>
          have there : traffic.lookup key = some found := named ▸ maps
          exact sticks.entry_stays sound late move there
      · split <;> exact nothing
  | timing found =>
      simp only [Lookup.step]
      split
      · exact nothing
      · exact kept found rfl fresh
  | judging found now =>
      simp only [Lookup.step]
      split
      · exact kept found rfl fresh
      · exact nothing
  | copying found =>
      have copied : (origins.take traffic move count).copied number = origins.content found := by
        simp [Origins.take, copies?, own, place, Call.source?]
      simp only [Lookup.step, Lookup.Phase.origin?, copied]
      exact fresh
  | stamping found content =>
      simp only [Lookup.step]
      split
      · exact nothing
      · next now read =>
          have asks := Move.action_of_proceeds own
          have made : (origins.take traffic move count).content traffic.cache.heap.next =
              origins.copied number := by
            simp [Origins.take, written?, makes?, asks, place, Call.imprint?, Move.instant?, read,
              Except.toOption]
          simp only [Lookup.Phase.origin?, made]
          exact fresh
  | swapping found candidate =>
      simp only [Lookup.step, Lookup.swap]
      split
      · split <;> exact nothing
      · exact nothing
  | finished outcome => exact nothing

/-- A later lookup brings no old content while others move. -/
theorem origin_stays (sound : traffic.Sound) (late : time ≤ count) {number : Nat} {asked : Lookup}
    {phase : Lookup.Phase} (idle : move.proceeds number = false)
    (place : traffic.calls[number]? = some (.lookup asked phase))
    (fresh : ¬ IsOld (phase.origin? origins number) time) :
    ¬ IsOld (phase.origin? (origins.take traffic move count) number) time := by
  have inside := List.mem_of_getElem? place
  cases phase with
  | timing found | judging found _ | copying found =>
      have known := holds_of_isShown (sound.found _ inside found rfl)
      exact fun old => fresh (Origins.isOld_take late known old)
  | stamping found content =>
      have copied : (origins.take traffic move count).copied number = origins.copied number := by
        simp [Origins.take, copies?, idle]
      simp only [Lookup.Phase.origin?, copied]
      exact fresh
  | swapping found candidate =>
      have known := (sound.hidden _ inside candidate rfl).1
      exact fun old => fresh (Origins.isOld_take late known old)
  | finding | finished _ => exact fresh

theorem calls_take (sticks : past.Sticks traffic origins key time) (sound : traffic.Sound)
    (late : time ≤ count) {number : Nat} {asked : Lookup} {phase : Lookup.Phase}
    (there : (traffic.take move).calls[number]? = some (.lookup asked phase))
    (named : asked.key = key) :
    ¬ IsOld (phase.origin? (origins.take traffic move count) number) time ∨
      ∃ found, past.Lingers number asked found ∧ (Call.lookup asked phase).found? = some found := by
  rcases lookup_call_cases there with ⟨old, own, place, rfl, -⟩ | ⟨idle, place⟩ | ⟨rfl, -⟩
  · rcases sticks.calls number asked old place named with fresh | ⟨found, lingers, works⟩
    · exact .inl (sticks.origin_step sound late own place named fresh)
    · rcases Lookup.found_step move.moment traffic.cache works with
        ⟨outcome, same⟩ | still
      · rw [same]
        exact .inl (not_isOld_none time)
      · exact .inr ⟨found, lingers, still⟩
  · exact (sticks.calls number asked phase place named).imp_left
      (origin_stays sound late idle place)
  · exact .inl (not_isOld_none time)

/-- Only lookups under way can bring an old content to an absent key. -/
theorem absent (none : past.lookup key = none) (origins : Origins) :
    past.Sticks past origins key time where
  entry entry maps := by
    rw [none] at maps
    cases maps
  calls number asked phase there named := by
    cases phase with
    | finding => exact .inl (not_isOld_none time)
    | finished outcome => exact .inl (not_isOld_none time)
    | _ => exact .inr ⟨_, ⟨_, there, rfl⟩, rfl⟩

/-- A move that revives nothing brings no old content to a key. -/
theorem take (sticks : past.Sticks traffic origins key time) (sound : traffic.Sound)
    (gone : ∀ number asked found, past.Lingers number asked found → traffic.lookup key ≠ some found)
    (late : time ≤ count) (revives : ¬ past.Revives traffic origins key time move) :
    past.Sticks (traffic.take move) (origins.take traffic move count) key time where
  entry _ maps := sticks.entry_take sound gone late revives maps
  calls _ _ _ there named := sticks.calls_take sound late there named

end Sticks

/-- Without a revival no run brings an old content to the key. -/
theorem sticks_run (start : Traffic) (before after : List Move) (sound : (start.run before).Sound)
    (absent : (start.run before).lookup key = none)
    (none : ¬ ∃ passed move, passed ++ [move] <+: after ∧
      (start.run before).Revives (start.run (before ++ passed)) (start.origins (before ++ passed)) key
        before.length move) :
    (start.run before).Sticks (start.run (before ++ after)) (start.origins (before ++ after)) key
      before.length := by
  induction after using List.reverseRecOn with
  | nil =>
      rw [List.append_nil]
      exact .absent absent _
  | append_singleton passed move ih =>
      have earlier := ih fun ⟨less, step, inside, revives⟩ =>
        none ⟨less, step, inside.trans (List.prefix_append _ _), revives⟩
      have later : start.run (before ++ passed) = (start.run before).run passed := run_append ..
      rw [← List.append_assoc, origins_concat, run_append, run_cons, run_nil]
      refine earlier.take ?_ ?_ ?_ fun revives => none ⟨passed, move, List.prefix_rfl, revives⟩
      · rw [later]
        exact sound.run passed
      · intro number asked found lingers
        rw [later]
        exact not_mapped_of_lingers sound absent lingers passed
      · simp

/-- A move that revives a content makes the key map to it. -/
theorem Revives.maps (revives : past.Revives traffic origins key time move) (sound : traffic.Sound)
    (count : Nat) : ∃ entry, (traffic.take move).lookup key = some entry ∧
      IsOld ((origins.take traffic move count).content entry) time := by
  obtain ⟨number, asked, found, candidate, own, rfl, -, place, absent, old⟩ := revives
  have asks := Move.action_of_proceeds own
  have hidden := (sound.hidden _ (List.mem_of_getElem? place) candidate rfl).1
  refine ⟨candidate, ?_, ?_⟩
  · rw [take_of_proceeds own place]
    simp only [lookup] at absent
    simp [Call.step, Lookup.step, Lookup.swap, absent, lookup, Store.lookup_replace]
  · have apart := Heap.ne_next_of_holds _ hidden
    simpa [Origins.take, written?, asks, apart] using old

/-- A removed key is absent, and serves an old content exactly if a lookup under way revives one. -/
theorem stale_iff_revives (hash : String → Nat) (segments : Nat) (positive : 0 < segments)
    (ceiling : Duration) (key : String) (before : List Move) :
    let start := opened hash segments positive ceiling
    (start.Invalidates key before → (start.run before).lookup key = none) ∧
    ((start.run before).lookup key = none → ∀ after, start.Recorded (before ++ after) ∧
      ((∃ passed entry, passed <+: after ∧ (start.run (before ++ passed)).lookup key = some entry ∧
          IsOld ((start.origins (before ++ passed)).content entry) before.length) ↔
        ∃ passed move, passed ++ [move] <+: after ∧
          (start.run before).Revives (start.run (before ++ passed)) (start.origins (before ++ passed))
            key before.length move)) := by
  intro start
  have sound (moves : List Move) : (start.run moves).Sound :=
    sound_run_opened hash segments positive ceiling moves
  refine ⟨Invalidates.absent, fun absent after =>
    ⟨recorded_run hash segments positive ceiling _, ?_, ?_⟩⟩
  · rintro ⟨passed, entry, inside, maps, old⟩
    by_contra none
    have sticks := sticks_run start before passed (sound before) absent
      fun ⟨less, move, earlier, revives⟩ => none ⟨less, move, earlier.trans inside, revives⟩
    exact sticks.entry entry maps old
  · rintro ⟨passed, move, inside, revives⟩
    obtain ⟨entry, maps, old⟩ := revives.maps (sound _) (before ++ passed).length
    refine ⟨passed ++ [move], entry, inside, ?_, ?_⟩
    · rw [← List.append_assoc, run_append]
      exact maps
    · rw [← List.append_assoc, origins_concat]
      exact old

/-- A lookup has made its copy when the key is removed. -/
def overtaken : List Move :=
  [.timed 0 (.begin (.lookup ⟨"k", none, ⟨5⟩⟩)), .timed 0 (.proceed 0),
    .timed 0 (.acquire ⟨1⟩ ⟨0⟩ .forced), .timed 0 (.commit ⟨1⟩ ⟨0⟩ "old" none),
    .timed 0 (.acquire ⟨1⟩ ⟨0⟩ .forced), .timed 9 (.begin (.lookup ⟨"k", none, ⟨5⟩⟩))] ++
  List.replicate 5 (.timed 9 (.proceed 1)) ++
  .timed 9 (.begin (.removal (.key "k"))) :: List.replicate 2 (.timed 9 (.proceed 2))

/-- The lookup puts its copy in place. -/
def revival : List Move := [.timed 9 (.proceed 1)]

theorem invalidates_overtaken : (opened (fun _ => 0) 1 Nat.one_pos ⟨9⟩).Invalidates "k" overtaken := by
  have own : ∀ move ∈ List.replicate 2 (Move.timed 9 (.proceed 2)), move.proceeds 2 = true := by decide
  have isOver : ((opened (fun _ => 0) 1 Nat.one_pos ⟨9⟩).run overtaken).calls[2]? =
      some (.removal (.finished 1)) := by decide +kernel
  exact .removed (.inl rfl) own isOver

theorem lookup_revival :
    ((opened (fun _ => 0) 1 Nat.one_pos ⟨9⟩).run (overtaken ++ revival)).lookup "k" = some ⟨1⟩ := by
  decide +kernel

theorem origin_revival :
    ((opened (fun _ => 0) 1 Nat.one_pos ⟨9⟩).origins (overtaken ++ revival)).content ⟨1⟩ = some 3 := by
  decide +kernel

/-- The key serves the content that was committed before its removal. -/
theorem stale_iff_revives_of_revival :
    let start := opened (fun _ => 0) 1 Nat.one_pos ⟨9⟩
    (start.run overtaken).lookup "k" = none ∧
      ((start.run (overtaken ++ revival)).state ⟨1⟩).content = some "old" ∧
      (start.run overtaken).Revives (start.run overtaken) (start.origins overtaken) "k" overtaken.length
        (.timed 9 (.proceed 1)) := by
  intro start
  obtain ⟨gone, later⟩ := stale_iff_revives (fun _ => 0) 1 Nat.one_pos ⟨9⟩ "k" overtaken
  have absent := gone invalidates_overtaken
  obtain ⟨recorded, stale⟩ := later absent revival
  refine ⟨absent, ?_, ?_⟩
  · rw [recorded.content ⟨1⟩ (by decide +kernel), origin_revival]
    decide +kernel
  · obtain ⟨passed, move, inside, revives⟩ :=
      stale.mp ⟨revival, ⟨1⟩, List.prefix_rfl, lookup_revival, 3, origin_revival, by decide⟩
    obtain rfl : passed = [] := by simpa [revival] using inside.length_le
    obtain ⟨rfl, -⟩ := List.cons_prefix_cons.mp inside
    exact revives

/-- An explicit removal does not always stick. -/
theorem not_always_gone :
    ¬ ∀ hash segments, ∀ positive : 0 < segments, ∀ ceiling key before after entry,
      (opened hash segments positive ceiling).Invalidates key before →
      ((opened hash segments positive ceiling).run (before ++ after)).lookup key = some entry →
      ¬ IsOld (((opened hash segments positive ceiling).origins (before ++ after)).content entry)
        before.length := by
  intro always
  exact always (fun _ => 0) 1 Nat.one_pos ⟨9⟩ "k" overtaken revival ⟨1⟩ invalidates_overtaken lookup_revival
    ⟨3, origin_revival, by decide⟩

end Traffic

end SingleFlight
