import SingleFlight.Proofs.Traffic.Course
import SingleFlight.Proofs.Traffic.Provenance

namespace SingleFlight

/-- The move that committed each entry's content, and each call's copy. -/
structure Origins where
  content : EntryId → Option Nat
  copied : Nat → Option Nat

/-- The text that a move commits. -/
def Move.text? (move : Move) : Option String :=
  match move.action with
  | .commit _ _ text _ => some text
  | _ => none

/-- The entry whose content a call copies in its next step. -/
def Call.source? : Call → Option EntryId
  | .lookup _ (.copying found) => some found
  | .copying asked .reading => some asked.source
  | _ => none

/-- A call about to copy a content works on its entry. -/
theorem Call.found_of_source {call : Call} {source : EntryId} (copies : call.source? = some source) :
    call.found? = some source := by
  unfold source? at copies
  split at copies
  · exact copies
  · exact copies
  · cases copies

namespace Traffic

/-- The entry on which a move commits, with or without its reading. -/
def written? (traffic : Traffic) (move : Move) : Option EntryId :=
  match move.action with
  | .commit caller entry _ _ =>
    if traffic.isShown entry && (traffic.state entry).isHeldBy caller then some entry else none
  | _ => none

/-- The call that makes a copy in a move, and its content. -/
def makes? (traffic : Traffic) (move : Move) : Option (Nat × Option String) :=
  match move.action with
  | .proceed number =>
    if move.instant?.isSome then
      (traffic.calls[number]?).bind fun call => call.imprint?.map fun imprint => (number, imprint.1)
    else none
  | _ => none

/-- The entry whose content a call copies in a move. -/
def copies? (traffic : Traffic) (move : Move) (number : Nat) : Option EntryId :=
  if move.proceeds number then (traffic.calls[number]?).bind Call.source? else none

end Traffic

/-- A holder's commit puts its text in place in any case. -/
theorem Entry.content_commit (entry : Entry) (caller : ThreadId) (text : String) (tag : Option Tag)
    (reading : Reading) : (entry.commit caller text tag reading).2.content =
      if entry.isHeldBy caller then some text else entry.content := by
  rw [commit_eq]
  split
  · cases reading <;> rfl
  · rfl

namespace Origins

/-- Nothing has been committed. -/
def blank : Origins := ⟨fun _ => none, fun _ => none⟩

/-- The record after the move of a number. -/
def take (origins : Origins) (traffic : Traffic) (move : Move) (number : Nat) : Origins where
  content entry :=
    if traffic.written? move = some entry then some number
    else if entry = traffic.cache.heap.next then
      (traffic.makes? move).bind fun made => origins.copied made.1
    else origins.content entry
  copied call :=
    match traffic.copies? move call with
    | some source => origins.content source
    | none => origins.copied call

/-- The record after moves that are numbered from some number on. -/
def run (origins : Origins) (traffic : Traffic) (number : Nat) : List Move → Origins
  | [] => origins
  | move :: rest =>
    (origins.take traffic move number).run (traffic.take move) (number + 1) rest

theorem run_concat (origins : Origins) (traffic : Traffic) (number : Nat) (moves : List Move)
    (move : Move) : origins.run traffic number (moves ++ [move]) =
      (origins.run traffic number moves).take (traffic.run moves) move (number + moves.length) := by
  induction moves generalizing origins traffic number with
  | nil => rfl
  | cons first rest ih =>
      rw [List.cons_append, run, ih, run, Traffic.run_cons, List.length_cons]
      congr 1
      omega

end Origins

namespace Traffic

/-- By which moves of a run the contents were committed. -/
def origins (start : Traffic) (moves : List Move) : Origins := Origins.blank.run start 0 moves

variable {traffic start : Traffic} {moves : List Move} {move : Move} {entry : EntryId}

theorem origins_concat (start : Traffic) (moves : List Move) (move : Move) :
    start.origins (moves ++ [move]) =
      (start.origins moves).take (start.run moves) move moves.length := by
  rw [origins, Origins.run_concat, Nat.zero_add]
  rfl

/-- The text that the move of a number has committed. -/
def textAt (moves : List Move) (number : Nat) : Option String := (moves[number]?).bind Move.text?

theorem textAt_concat_of_lt {number : Nat} (before : number < moves.length) (move : Move) :
    textAt (moves ++ [move]) number = textAt moves number := by
  rw [textAt, List.getElem?_append_left before, textAt]

theorem textAt_concat_length (moves : List Move) (move : Move) :
    textAt (moves ++ [move]) moves.length = move.text? := by
  simp [textAt]

/-- Outside of calls no entry is made. -/
theorem holds_of_onEntry {target : EntryId} {change : Entry → Entry}
    (known : (traffic.onEntry target change).cache.heap.holds entry = true) :
    traffic.cache.heap.holds entry = true := by
  unfold onEntry at known
  split at known
  · simpa [Cache.setEntry] using known
  · exact known

/-- A call's step gives a content to the copy it makes alone. -/
theorem content_proceed {number : Nat} {moment : Moment}
    (known : (traffic.take ⟨.proceed number, moment⟩).cache.heap.holds entry = true) :
    ((traffic.take ⟨.proceed number, moment⟩).state entry).content =
      if entry = traffic.cache.heap.next then
        (traffic.makes? ⟨.proceed number, moment⟩).bind Prod.snd
      else (traffic.state entry).content := by
  cases place : traffic.calls[number]? with
  | none =>
      have same : traffic.take ⟨.proceed number, moment⟩ = traffic := by simp [take, place]
      rw [same] at known ⊢
      rw [if_neg (Heap.ne_next_of_holds _ known)]
  | some call =>
      have step : (traffic.take ⟨.proceed number, moment⟩).cache =
          (call.step moment traffic.cache).2 := by simp [take, place]
      have effect := Call.effect_step moment traffic.cache call
      rw [← step] at effect
      generalize traffic.take ⟨.proceed number, moment⟩ = after at known effect ⊢
      generalize (call.step moment traffic.cache).1 = next at effect
      obtain ⟨cache, calls⟩ := after
      by_cases new : entry = traffic.cache.heap.next
      · subst new
        rw [if_pos rfl]
        cases effect with
        | created starts => simp [makes?, place, starts, Call.imprint?, state, Entry.fresh, Entry.seeded]
        | stamped starts read =>
            simp [makes?, place, starts, Call.imprint?, state, Entry.seeded, Move.instant?, read,
              Except.toOption]
        | copied starts read =>
            simp [makes?, place, starts, Call.imprint?, state, Entry.seeded, Move.instant?, read,
              Except.toOption]
        | _ => exact absurd rfl (Heap.ne_next_of_holds _ known)
      · rw [if_neg new]
        cases effect with
        | created => exact congrArg Entry.content (Heap.get_add_of_ne new _)
        | stamped => exact congrArg Entry.content (Heap.get_add_of_ne new _)
        | copied => exact congrArg Entry.content (Heap.get_add_of_ne new _)
        | _ => rfl

/-- A content was committed, or copied by its maker, or there before. -/
theorem content_take (known : (traffic.take move).cache.heap.holds entry = true) :
    ((traffic.take move).state entry).content =
      if traffic.written? move = some entry then move.text?
      else if entry = traffic.cache.heap.next then (traffic.makes? move).bind Prod.snd
      else (traffic.state entry).content := by
  obtain ⟨action, moment⟩ := move
  cases action with
  | commit caller target text tag =>
      have states := traffic.state_onEntry target entry
        fun state => (state.commit caller text tag moment.monotonic).2
      have apart := Heap.ne_next_of_holds _ (holds_of_onEntry known)
      simp only [take, written?, apart, if_false]
      rw [states]
      by_cases mine : traffic.isShown target = true ∧ entry = target
      · obtain ⟨shown, rfl⟩ := mine
        rw [if_pos ⟨shown, rfl⟩, Entry.content_commit]
        cases held : (traffic.state entry).isHeldBy caller <;> simp [shown, Move.text?]
      · rw [if_neg mine, if_neg]
        split
        · next writes =>
            intro same
            obtain ⟨shown, -⟩ := Bool.and_eq_true_iff.mp writes
            exact mine ⟨shown, (Option.some.inj same).symm⟩
        · simp
  | acquire caller target request =>
      have apart := Heap.ne_next_of_holds _ (holds_of_onEntry known)
      have keeps (state : Entry) :
          (state.acquire caller request moment.monotonic).2.content = state.content ∧
            (state.acquire caller request moment.monotonic).2.tag = state.tag := by
        rcases state.acquire_cases caller request moment.monotonic with
          ⟨_, -, same⟩ | ⟨-, _, -, same⟩ | ⟨-, _, -, -, same⟩ | ⟨-, _, -, -, same⟩ <;>
            rw [same] <;> exact ⟨rfl, rfl⟩
      simp only [take, written?, apart, reduceCtorEq, if_false]
      exact (traffic.imprint_onEntry target entry keeps).1
  | release caller target =>
      have apart := Heap.ne_next_of_holds _ (holds_of_onEntry known)
      have keeps (state : Entry) : (state.release caller).content = state.content ∧
          (state.release caller).tag = state.tag := by
        unfold Entry.release
        split <;> exact ⟨rfl, rfl⟩
      simp only [take, written?, apart, reduceCtorEq, if_false]
      exact (traffic.imprint_onEntry target entry keeps).1
  | proceed number => exact content_proceed known
  | begin task =>
      have same : (traffic.take ⟨.begin task, moment⟩).cache = traffic.cache := by
        simp only [take]
        split <;> rfl
      rw [same] at known
      simp [written?, Heap.ne_next_of_holds _ known, state, same]
  | evict key target =>
      have apart := Heap.ne_next_of_holds traffic.cache.heap known
      simp [written?, apart, take, state]

/-- A call about to make a copy has just copied the content. -/
theorem source_of_imprint_step {call : Call} {moment : Moment} {cache : Cache}
    {content : Option String} {tag : Option Tag}
    (known : (call.step moment cache).1.imprint? = some (content, tag)) :
    ∃ source, call.source? = some source ∧ content = (cache.heap.get source).content := by
  cases call with
  | lookup asked phase =>
      cases phase with
      | copying found =>
          simp only [Call.step, Lookup.step, Call.imprint?, Option.some.injEq, Prod.mk.injEq] at known
          exact ⟨found, rfl, known.1.symm⟩
      | _ =>
          simp only [Call.step, Lookup.step, Lookup.find, Lookup.swap] at known
          repeat' split at known
          all_goals simp [Call.imprint?] at known
  | copying asked phase =>
      cases phase with
      | reading =>
          simp only [Call.step, Copying.step, Call.imprint?, Option.some.injEq, Prod.mk.injEq] at known
          exact ⟨asked.source, rfl, known.1.symm⟩
      | _ =>
          simp only [Call.step, Copying.step] at known
          repeat' split at known
          all_goals simp [Call.imprint?] at known
  | sweep phase => simp [Call.step, Call.imprint?] at known
  | removal phase => simp [Call.step, Call.imprint?] at known

/-- Every content is the text of the move on record for it. -/
structure Recorded (start : Traffic) (moves : List Move) : Prop where
  content : ∀ entry, (start.run moves).cache.heap.holds entry = true →
    ((start.run moves).state entry).content =
      ((start.origins moves).content entry).bind (textAt moves)
  past : ∀ entry number, (start.origins moves).content entry = some number → number < moves.length
  copied : ∀ (place : Nat) call, (start.run moves).calls[place]? = some call → ∀ content tag,
    call.imprint? = some (content, tag) →
      content = ((start.origins moves).copied place).bind (textAt moves)
  copiedPast : ∀ place number, (start.origins moves).copied place = some number →
    number < moves.length

/-- What the record names does not change its text. -/
theorem bind_textAt_concat {origin : Option Nat} (past : ∀ number, origin = some number →
    number < moves.length) (move : Move) :
    origin.bind (textAt (moves ++ [move])) = origin.bind (textAt moves) := by
  cases origin with
  | none => rfl
  | some number => exact textAt_concat_of_lt (past number rfl) move

/-- A move makes at most one entry, under the next identity. -/
theorem holds_of_take (known : (traffic.take move).cache.heap.holds entry = true)
    (old : entry ≠ traffic.cache.heap.next) : traffic.cache.heap.holds entry = true := by
  have change := traffic.change_take move
  generalize traffic.take move = after at change known
  have added (state : Entry) (there : (traffic.cache.heap.add state).holds entry = true) :
      traffic.cache.heap.holds entry = true :=
    ((Heap.holds_add_iff _ _ _).mp there).resolve_right old
  cases change with
  | proceeded _ effect =>
      cases effect with
      | created => exact added _ known
      | stamped => exact added _ known
      | copied => exact added _ known
      | _ => exact known
  | operated => simpa [Cache.setEntry] using known
  | _ => exact known

/-- The call that makes a copy is about to do so. -/
theorem imprint_of_makes {place : Nat} {content : Option String}
    (makes : traffic.makes? move = some (place, content)) :
    ∃ call tag, traffic.calls[place]? = some call ∧ call.imprint? = some (content, tag) := by
  unfold makes? at makes
  split at makes
  · split at makes
    · obtain ⟨call, there, imprints⟩ := Option.bind_eq_some_iff.mp makes
      obtain ⟨imprint, known, same⟩ := Option.map_eq_some_iff.mp imprints
      obtain ⟨rfl, rfl⟩ := Prod.mk.inj same
      exact ⟨call, imprint.2, there, known⟩
    · cases makes
  · cases makes

namespace Recorded

/-- In a new store there is nothing to record. -/
theorem opened (hash : String → Nat) (count : Nat) (positive : 0 < count) (ceiling : Duration) :
    (Traffic.opened hash count positive ceiling).Recorded [] where
  content entry known := by simp [Traffic.opened, Heap.holds, Heap.empty] at known
  past entry number named := by cases named
  copied place call there := by simp [Traffic.opened] at there
  copiedPast place number named := by cases named

/-- A move keeps the record right. -/
theorem concat (recorded : start.Recorded moves) (sound : (start.run moves).Sound) (move : Move) :
    start.Recorded (moves ++ [move]) where
  content entry known := by
    rw [run_append, run_cons, run_nil] at known ⊢
    rw [content_take known, origins_concat]
    simp only [Origins.take]
    split
    · exact (textAt_concat_length moves move).symm
    · split
      · cases makes : (start.run moves).makes? move with
        | none => rfl
        | some made =>
            obtain ⟨place, content⟩ := made
            obtain ⟨call, tag, there, imprint⟩ := imprint_of_makes makes
            have same := recorded.copied place call there content tag imprint
            exact same.trans (bind_textAt_concat (recorded.copiedPast place) move).symm
      · next old =>
          rw [bind_textAt_concat (recorded.past entry) move]
          exact recorded.content entry (holds_of_take known old)
  past entry number named := by
    rw [origins_concat] at named
    simp only [Origins.take] at named
    rw [List.length_append, List.length_singleton]
    split at named
    · obtain rfl := Option.some.inj named
      exact Nat.lt_succ_self _
    · split at named
      · obtain ⟨made, -, named⟩ := Option.bind_eq_some_iff.mp named
        exact Nat.lt_succ_of_lt (recorded.copiedPast made.1 number named)
      · exact Nat.lt_succ_of_lt (recorded.past entry number named)
  copied place call there content tag imprint := by
    rw [run_append, run_cons, run_nil] at there
    rw [origins_concat]
    simp only [Origins.take, copies?]
    rcases call_cases there with ⟨own, before, known, rfl, -⟩ | ⟨idle, known⟩ | ⟨-, -, task, -, rfl⟩
    · obtain ⟨source, copies, same⟩ := source_of_imprint_step imprint
      have seen := sound.found before (List.mem_of_getElem? known) source (Call.found_of_source copies)
      simp only [own, known, copies, Option.bind_some, if_true]
      rw [bind_textAt_concat (recorded.past source) move, same]
      exact recorded.content source (holds_of_isShown seen)
    · simp only [idle, Bool.false_eq_true, if_false]
      rw [bind_textAt_concat (recorded.copiedPast place) move]
      exact recorded.copied place call known content tag imprint
    · cases task <;> simp [Task.start, Call.imprint?] at imprint
  copiedPast place number named := by
    rw [origins_concat] at named
    simp only [Origins.take] at named
    rw [List.length_append, List.length_singleton]
    split at named
    · next source _ => exact Nat.lt_succ_of_lt (recorded.past source number named)
    · exact Nat.lt_succ_of_lt (recorded.copiedPast place number named)

end Recorded

/-- After every run the record is right. -/
theorem recorded_run (hash : String → Nat) (count : Nat) (positive : 0 < count) (ceiling : Duration)
    (moves : List Move) : (opened hash count positive ceiling).Recorded moves := by
  induction moves using List.reverseRecOn with
  | nil => exact .opened hash count positive ceiling
  | append_singleton moves move ih =>
      exact ih.concat (sound_run_opened hash count positive ceiling moves) move

end Traffic

end SingleFlight
