import SingleFlight.Proofs.Traffic.Conservation
import SingleFlight.Proofs.Traffic.Returns

namespace SingleFlight

/-- What the next step of a call puts into the map. -/
def Call.placed? (call : Call) (moment : Moment) (cache : Cache) : Option (String × EntryId) :=
  match call with
  | .lookup asked .finding =>
    if (cache.store.lookup asked.key).isNone && moment.monotonic.isOk then
      some (asked.key, cache.heap.next)
    else none
  | .lookup asked (.swapping _ candidate) =>
    if call.replaces cache.store then some (asked.key, candidate) else none
  | _ => none

namespace Traffic

/-- What a move puts into the map. -/
def placed? (traffic : Traffic) (move : Move) : Option (String × EntryId) :=
  match move.action with
  | .proceed number =>
    traffic.calls[number]?.bind fun call => call.placed? move.moment traffic.cache
  | _ => none

/-- What the moves of a run put into the map, in order. -/
def placements (traffic : Traffic) : List Move → List (String × EntryId)
  | [] => []
  | move :: rest => (traffic.placed? move).toList ++ (traffic.take move).placements rest

/-- What a move takes out of its key by comparing identities. -/
def evicted? (traffic : Traffic) (move : Move) : Option (String × EntryId) :=
  let attempt (key : String) (expected : EntryId) :=
    if (traffic.cache.store.evict key expected).1 then some (key, expected) else none
  match move.action with
  | .evict key entry => attempt key entry
  | .proceed number =>
    match traffic.calls[number]? with
    | some (.sweep (.removing _ key found _)) => attempt key found
    | _ => none
  | _ => none

/-- What the moves of a run take out by identity, in order. -/
def evictees (traffic : Traffic) : List Move → List (String × EntryId)
  | [] => []
  | move :: rest => (traffic.evicted? move).toList ++ (traffic.take move).evictees rest

end Traffic

namespace Call
variable {call next : Call} {moment : Moment} {cache after : Cache} {key : String} {entry : EntryId}

/-- A key maps to what it did before a step, or to what was placed. -/
theorem Effect.lookup_or_placed (effect : call.Effect moment cache next after)
    (maps : after.store.lookup key = some entry) :
    cache.store.lookup key = some entry ∨ call.placed? moment cache = some (key, entry) := by
  cases effect with
  | quiet mapping => exact .inl ((mapping key).symm.trans maps)
  | created starts absent read =>
      subst starts
      rw [Store.lookup_create] at maps
      split at maps
      · next same =>
          right
          simpa [placed?, absent, read, Except.isOk, Except.toBool, same] using maps
      · exact .inl maps
  | stamped => exact .inl maps
  | copied => exact .inl maps
  | replaced starts vacant =>
      subst starts
      rw [Store.lookup_replace] at maps
      split at maps
      · next same =>
          right
          simpa [placed?, replaces, vacant.symm, same] using maps
      · exact .inl maps
  | evicted starts current =>
      rw [Store.lookup_evict] at maps
      split at maps
      · cases maps
      · exact .inl maps
  | removed starts mapping =>
      rcases mapping key with same | gone
      · exact .inl (same.symm.trans maps)
      · rw [gone] at maps
        cases maps

/-- What a step places is new, or the candidate of its call. -/
theorem fresh_of_placed (placed : call.placed? moment cache = some (key, entry)) :
    entry = cache.heap.next ∨ call.candidate? = some entry := by
  unfold placed? at placed
  split at placed
  · split at placed
    · obtain ⟨-, rfl⟩ := Prod.mk.inj (Option.some.inj placed)
      exact .inl rfl
    · cases placed
  · split at placed
    · obtain ⟨-, rfl⟩ := Prod.mk.inj (Option.some.inj placed)
      exact .inr rfl
    · cases placed
  · cases placed

/-- What a step puts into the map is there after it. -/
theorem lookup_of_placed (placed : call.placed? moment cache = some (key, entry)) :
    (call.step moment cache).2.store.lookup key = some entry := by
  unfold placed? at placed
  split at placed
  · next asked =>
      split at placed
      · next free =>
          obtain ⟨rfl, rfl⟩ := Prod.mk.inj (Option.some.inj placed)
          obtain ⟨absent, readable⟩ := Bool.and_eq_true_iff.mp free
          rw [Option.isNone_iff_eq_none] at absent
          cases read : moment.monotonic with
          | error fault => simp [read, Except.isOk, Except.toBool] at readable
          | ok now => simp [step, Lookup.step, Lookup.find, absent, read, Store.lookup_create]
      · cases placed
  · next asked found candidate =>
      split at placed
      · next vacant =>
          obtain ⟨rfl, rfl⟩ := Prod.mk.inj (Option.some.inj placed)
          simp only [replaces, Bool.or_eq_true, decide_eq_true_eq] at vacant
          rcases vacant with absent | current
          · simp [step, Lookup.step, Lookup.swap, absent, Store.lookup_replace]
          · simp [step, Lookup.step, Lookup.swap, current, Store.lookup_replace]
      · cases placed
  · cases placed

end Call

namespace Traffic
variable {traffic : Traffic} {moves : List Move} {move : Move} {key : String} {entry : EntryId}

theorem step_of_placed (placed : traffic.placed? move = some (key, entry)) :
    ∃ number call, move.proceeds number = true ∧ traffic.calls[number]? = some call ∧
      call.placed? move.moment traffic.cache = some (key, entry) := by
  unfold placed? at placed
  split at placed
  · next number asks =>
      obtain ⟨call, there, made⟩ := Option.bind_eq_some_iff.mp placed
      exact ⟨number, call, by simp [Move.proceeds, asks], there, made⟩
  · cases placed

/-- What a move puts into the map is there after it. -/
theorem lookup_of_placed (placed : traffic.placed? move = some (key, entry)) :
    (traffic.take move).lookup key = some entry := by
  obtain ⟨number, call, own, there, made⟩ := step_of_placed placed
  rw [take_of_proceeds own there]
  exact Call.lookup_of_placed made

/-- What a move places was not visible to threads. -/
theorem unseen_of_placed (placed : traffic.placed? move = some (key, entry)) :
    traffic.isShown entry ≠ true := by
  obtain ⟨number, call, -, there, made⟩ := step_of_placed placed
  intro shown
  rcases Call.fresh_of_placed made with new | candidate
  · exact Heap.ne_next_of_holds _ (holds_of_isShown shown) new
  · exact Sound.ne_of_shown (List.mem_of_getElem? there) candidate shown rfl

/-- A key maps to what it did before a move, or to what was placed. -/
theorem lookup_or_placed (maps : (traffic.take move).lookup key = some entry) :
    traffic.lookup key = some entry ∨ traffic.placed? move = some (key, entry) := by
  obtain ⟨action, moment⟩ := move
  cases action with
  | begin task =>
      simp only [take] at maps
      split at maps <;> exact .inl maps
  | proceed number =>
      cases known : traffic.calls[number]? with
      | none =>
          rw [take_of_absent (by simp [Move.proceeds]) known] at maps
          exact .inl maps
      | some call =>
          rw [take_of_proceeds (by simp [Move.proceeds]) known] at maps
          simp only [placed?, known, Option.bind_some]
          exact (Call.effect_step moment traffic.cache call).lookup_or_placed maps
  | acquire _ _ _ | commit _ _ _ _ | release _ _ =>
      simp only [take, lookup, Store.lookup] at maps
      rw [segments_onEntry] at maps
      exact .inl maps
  | evict name expected =>
      simp only [take, lookup, Store.lookup_evict] at maps
      split at maps
      · cases maps
      · exact .inl maps

/-- An entry that threads can see is never placed. -/
theorem Sound.not_placed_of_shown (sound : traffic.Sound) (shown : traffic.isShown entry = true) :
    (key, entry) ∉ traffic.placements moves := by
  induction moves generalizing traffic with
  | nil => exact List.not_mem_nil
  | cons move rest ih =>
      intro inside
      rcases List.mem_append.mp inside with first | later
      · exact unseen_of_placed (Option.mem_toList.mp first) shown
      · exact ih (sound.take move) ((traffic.change_take move).shown shown) later

/-- No identity is placed twice, at one key or at two. -/
theorem Sound.nodup_placements (sound : traffic.Sound) :
    ((traffic.placements moves).map Prod.snd).Nodup := by
  induction moves generalizing traffic with
  | nil => exact List.nodup_nil
  | cons move rest ih =>
      have later := ih (sound.take move)
      cases placed : traffic.placed? move with
      | none => simpa [placements, placed] using later
      | some slot =>
          obtain ⟨key, entry⟩ := slot
          have shown := (sound.take move).mapped key entry (lookup_of_placed placed)
          have once : entry ∉ ((traffic.take move).placements rest).map Prod.snd := by
            rintro again
            obtain ⟨⟨other, _⟩, inside, rfl⟩ := List.mem_map.mp again
            exact (sound.take move).not_placed_of_shown shown inside
          simpa [placements, placed] using List.nodup_cons.mpr ⟨once, later⟩

/-- Every mapped entry was there at first, or was placed. -/
theorem lookup_or_mem_placements (maps : (traffic.run moves).lookup key = some entry) :
    traffic.lookup key = some entry ∨ (key, entry) ∈ traffic.placements moves := by
  induction moves generalizing traffic with
  | nil => exact .inl maps
  | cons move rest ih =>
      rcases ih maps with before | later
      · rcases lookup_or_placed before with old | placed
        · exact .inl old
        · exact .inr (List.mem_append_left _ (Option.mem_toList.mpr placed))
      · exact .inr (List.mem_append_right _ later)

/-- An entry taken out of its key is at no key for good. -/
theorem Sound.gone_of_taken (sound : traffic.Sound) (maps : traffic.lookup key = some entry)
    (taken : (traffic.take move).lookup key ≠ some entry) (rest : List Move) (other : String) :
    (traffic.run (move :: rest)).lookup other ≠ some entry := by
  intro back
  have shown := sound.mapped key entry maps
  have after := lookup_of_run ((traffic.change_take move).shown shown) back
  obtain rfl : other = key := sound.injective other key entry (lookup_of_take shown after) maps
  exact taken after

/-- An evicted entry was at its key, which is then absent. -/
theorem lookup_of_evicted (evicted : traffic.evicted? move = some (key, entry)) :
    traffic.lookup key = some entry ∧ (traffic.take move).lookup key = none := by
  have current {name : String} {expected : EntryId}
      (attempt : (if (traffic.cache.store.evict name expected).1 then some (name, expected) else none) =
        some (key, entry)) : name = key ∧ expected = entry ∧ traffic.lookup key = some entry := by
    split at attempt
    · next matched =>
        obtain ⟨rfl, rfl⟩ := Prod.mk.inj (Option.some.inj attempt)
        refine ⟨rfl, rfl, ?_⟩
        simp only [Store.evict] at matched
        split at matched
        · assumption
        · cases matched
    · cases attempt
  obtain ⟨action, moment⟩ := move
  cases action with
  | evict name expected =>
      obtain ⟨rfl, rfl, there⟩ := current evicted
      simp only [lookup] at there
      exact ⟨there, by simp [take, lookup, Store.lookup_evict, there]⟩
  | proceed number =>
      simp only [evicted?] at evicted
      split at evicted
      · next progress name found rest known =>
          obtain ⟨rfl, rfl, there⟩ := current evicted
          simp only [lookup] at there
          refine ⟨there, ?_⟩
          rw [take_of_proceeds (by simp [Move.proceeds]) known]
          simp [Call.step, Sweep.step, lookup, Store.lookup_evict, there]
      · cases evicted
  | _ => cases evicted

/-- A visible entry that is at no key is never evicted. -/
theorem not_evicted_of_gone (shown : traffic.isShown entry = true)
    (gone : ∀ key, traffic.lookup key ≠ some entry) : (key, entry) ∉ traffic.evictees moves := by
  induction moves generalizing traffic with
  | nil => exact List.not_mem_nil
  | cons move rest ih =>
      intro inside
      rcases List.mem_append.mp inside with first | later
      · exact gone key (lookup_of_evicted (Option.mem_toList.mp first)).1
      · refine ih ((traffic.change_take move).shown shown) (fun key maps => ?_) later
        exact gone key (lookup_of_take shown maps)

/-- No identity is evicted twice. -/
theorem Sound.nodup_evictees (sound : traffic.Sound) :
    ((traffic.evictees moves).map Prod.snd).Nodup := by
  induction moves generalizing traffic with
  | nil => exact List.nodup_nil
  | cons move rest ih =>
      have later := ih (sound.take move)
      cases evicted : traffic.evicted? move with
      | none => simpa [evictees, evicted] using later
      | some slot =>
          obtain ⟨key, entry⟩ := slot
          obtain ⟨maps, absent⟩ := lookup_of_evicted evicted
          have shown := (traffic.change_take move).shown (sound.mapped key entry maps)
          have left : (traffic.take move).lookup key ≠ some entry := by simp [absent]
          have gone := sound.gone_of_taken maps left []
          have once : entry ∉ ((traffic.take move).evictees rest).map Prod.snd := by
            rintro again
            obtain ⟨⟨other, _⟩, inside, rfl⟩ := List.mem_map.mp again
            exact not_evicted_of_gone shown gone inside
          simpa [evictees, evicted] using List.nodup_cons.mpr ⟨once, later⟩

/-- A lookup that begins after a removal does not return the entry. -/
theorem not_returned_of_taken {start : Traffic} (sound : start.Sound) (fresh : start.calls = [])
    {passed rest : List Move} (maps : (start.run passed).lookup key = some entry)
    (taken : ((start.run passed).take move).lookup key ≠ some entry) {number : Nat}
    (later : (start.run (passed ++ [move])).calls.length ≤ number) (asked : Lookup) :
    (start.run (passed ++ move :: rest)).calls[number]? ≠
      some (.lookup asked (.finished (.ok entry))) := by
  intro returned
  obtain ⟨earlier, last, begins, own, ⟨phase, under, -⟩, sight⟩ :=
    seen_of_known fresh number asked _ returned entry rfl
  have gone (more : List Move) : (start.run (passed ++ move :: more)).lookup asked.key ≠ some entry := by
    rw [run_append]
    exact (sound.run passed).gone_of_taken maps taken more asked.key
  have split : passed ++ [move] <+: passed ++ move :: rest := ⟨rest, by simp⟩
  rcases List.prefix_or_prefix_of_prefix ((List.prefix_append earlier [last]).trans begins) split with
    early | late
  · obtain ⟨more, same⟩ := early
    -- The call is there at a step of its own, so it has begun before the entry was taken out.
    have begun := (List.getElem?_eq_some_iff.mp under).1
    have grown := (start.run earlier).length_calls_run more
    rw [← run_append, same] at grown
    exact absurd (begun.trans_le grown) (Nat.not_lt.mpr later)
  · obtain ⟨more, rfl⟩ := late
    rcases sight with before | after
    · apply gone more
      simpa using before
    · apply gone (more ++ [last])
      simpa using after

/-- Each identity is placed and evicted once at most, and is never seen again once taken out. -/
theorem entries_never_return (hash : String → Nat) (count : Nat) (positive : 0 < count)
    (ceiling : Duration) (moves : List Move) :
    let start := opened hash count positive ceiling
    ((start.placements moves).map Prod.snd).Nodup ∧
    (∀ key entry, (start.run moves).lookup key = some entry → (key, entry) ∈ start.placements moves) ∧
    (∀ passed move rest, moves = passed ++ move :: rest →
      ∀ key entry, (key, entry) ∈ (start.run passed).takenOut move →
        (∀ other, (start.run moves).lookup other ≠ some entry) ∧
        ∀ number, (start.run (passed ++ [move])).calls.length ≤ number →
          ∀ asked, (start.run moves).calls[number]? ≠ some (.lookup asked (.finished (.ok entry)))) ∧
    ((start.evictees moves).map Prod.snd).Nodup := by
  intro start
  have sound : start.Sound := sound_opened hash count positive ceiling
  have placed : start.cache.store.segments.InPlace := Segments.inPlace_empty hash count positive
  refine ⟨sound.nodup_placements, fun key entry maps => ?_, ?_, sound.nodup_evictees⟩
  · rcases lookup_or_mem_placements maps with before | inside
    · rw [lookup_opened hash count positive ceiling key] at before
      cases before
    · exact inside
  · rintro passed move rest rfl key entry inside
    obtain ⟨maps, taken⟩ := (mem_takenOut_iff (inPlace_run placed passed)).mp inside
    refine ⟨fun other => ?_, fun number later asked => ?_⟩
    · rw [run_append]
      exact (sound.run passed).gone_of_taken maps taken rest other
    · exact not_returned_of_taken sound rfl maps taken later asked

/-- An entry is evicted, revived as a copy, swept, and made anew. -/
def comings : List Move :=
  [.timed 0 (.begin (.lookup ⟨"k", none, ⟨5⟩⟩)), .timed 0 (.proceed 0),
    .timed 0 (.acquire ⟨1⟩ ⟨0⟩ .forced), .timed 9 (.begin (.lookup ⟨"k", none, ⟨5⟩⟩))] ++
  List.replicate 5 (.timed 9 (.proceed 1)) ++
  [.timed 9 (.evict "k" ⟨0⟩), .timed 9 (.evict "k" ⟨0⟩), .timed 9 (.proceed 1),
    .timed 9 (.evict "k" ⟨0⟩), .timed 14 (.begin .sweep)] ++
  List.replicate 10 (.timed 14 (.proceed 2)) ++
  [.timed 14 (.begin (.lookup ⟨"k", none, ⟨5⟩⟩)), .timed 14 (.proceed 3)]

/-- Three entries come to one key, and each is taken out once. -/
theorem entries_never_return_of_comings :
    let start := opened (fun _ => 0) 1 Nat.one_pos ⟨9⟩
    let traffic := start.run comings
    start.placements comings = [("k", ⟨0⟩), ("k", ⟨1⟩), ("k", ⟨2⟩)] ∧
      start.evictees comings = [("k", ⟨0⟩), ("k", ⟨1⟩)] ∧ traffic.lookup "k" = some ⟨2⟩ ∧
      (∀ other, traffic.lookup other ≠ some ⟨0⟩) ∧
      ((start.evictees comings).map Prod.snd).Nodup := by
  intro start traffic
  have cut : comings = comings.take 9 ++ .timed 9 (.evict "k" ⟨0⟩) :: comings.drop 10 := by rfl
  have taken : ("k", ⟨0⟩) ∈ (start.run (comings.take 9)).takenOut (.timed 9 (.evict "k" ⟨0⟩)) := by
    decide +kernel
  obtain ⟨-, -, gone, once⟩ := entries_never_return (fun _ => 0) 1 Nat.one_pos ⟨9⟩ comings
  refine ⟨by decide +kernel, by decide +kernel, by decide +kernel, ?_, once⟩
  exact (gone _ _ _ cut "k" ⟨0⟩ taken).1

end Traffic

end SingleFlight
