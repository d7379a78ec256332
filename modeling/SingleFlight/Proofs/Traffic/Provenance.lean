import Mathlib.Data.List.Induction
import SingleFlight.Proofs.Entry.Cases
import SingleFlight.Proofs.Traffic.Sound

namespace SingleFlight

/-- The content and the tag of the copy a call is about to make. -/
def Call.imprint? : Call → Option (Option String × Option Tag)
  | .lookup asked (.stamping _ content) => some (content, asked.tag)
  | .copying asked (.stamping content) => some (content, asked.tag)
  | _ => none

namespace Traffic

/-- A commit that could not read the clock. -/
def breaks (traffic : Traffic) (move : Move) : Prop :=
  ∃ thread entry content tag fault, move.action = .commit thread entry content tag ∧
    ((traffic.state entry).commit thread content tag move.moment.monotonic).1 = .error fault

/-- A thread commits a content for a tag, and gets true. -/
def commitsFor (traffic : Traffic) (move : Move) (entry : EntryId) (content : String)
    (tag : Option Tag) : Prop :=
  ∃ thread, move.action = .commit thread entry content tag ∧ traffic.isShown entry = true ∧
    ((traffic.state entry).commit thread content tag move.moment.monotonic).1 = .ok true

/-- A call makes an entry as a copy, with a content and a tag. -/
def copies (traffic : Traffic) (move : Move) (entry : EntryId) (content : String)
    (tag : Option Tag) : Prop :=
  ∃ number call, move.action = .proceed number ∧ traffic.calls[number]? = some call ∧
    call.imprint? = some (some content, tag) ∧ move.instant? ≠ none ∧
    entry = traffic.cache.heap.next

/-- A run has a move of a kind, in the traffic it is made in. -/
def Occurs (traffic : Traffic) (moves : List Move) (kind : Traffic → Move → Prop) : Prop :=
  ∃ passed move, passed ++ [move] <+: moves ∧ kind (traffic.run passed) move

/-- A run has a true commit of a content, anywhere. -/
def Committed (traffic : Traffic) (moves : List Move) (content : String) : Prop :=
  ∃ entry tag, traffic.Occurs moves (·.commitsFor · entry content tag)

/-- How an entry has come to a content under a tag. -/
inductive Backed (traffic : Traffic) (moves : List Move) (entry : EntryId) (content : String)
    (tag : Option Tag) : Prop where
  /-- By a commit on it. -/
  | committed (made : traffic.Occurs moves (·.commitsFor · entry content tag))
  /-- As a copy on which nothing has been committed; the content was, elsewhere. -/
  | copied (made : traffic.Occurs moves (·.copies · entry content tag))
      (untouched : ∀ text label, ¬ traffic.Occurs moves (·.commitsFor · entry text label))
      (elsewhere : traffic.Committed moves content)

variable {traffic start : Traffic} {moves : List Move} {move : Move} {entry : EntryId}
  {content : String} {tag : Option Tag}

/-- A longer run has the old moves and the new one. -/
theorem occurs_concat_iff {kind : Traffic → Move → Prop} :
    traffic.Occurs (moves ++ [move]) kind ↔
      traffic.Occurs moves kind ∨ kind (traffic.run moves) move := by
  constructor
  · rintro ⟨passed, last, inside, so⟩
    rcases List.prefix_concat_iff.mp inside with same | before
    · obtain ⟨rfl, rfl⟩ : passed = moves ∧ last = move := by simpa using same
      exact .inr so
    · exact .inl ⟨passed, last, before, so⟩
  · rintro (⟨passed, last, inside, so⟩ | so)
    · exact ⟨passed, last, inside.trans (List.prefix_append _ _), so⟩
    · exact ⟨moves, move, List.prefix_rfl, so⟩

/-- What has been committed stays committed. -/
theorem Committed.concat (committed : traffic.Committed moves content) :
    traffic.Committed (moves ++ [move]) content := by
  obtain ⟨entry, tag, made⟩ := committed
  exact ⟨entry, tag, occurs_concat_iff.mpr (.inl made)⟩

/-- An entry on which something was committed is one that threads can see. -/
theorem isShown_of_commitsFor (made : traffic.Occurs moves (·.commitsFor · entry content tag)) :
    (traffic.run moves).isShown entry = true := by
  obtain ⟨passed, last, ⟨rest, rfl⟩, -, -, shown, -⟩ := made
  rw [List.append_assoc, run_append]
  exact isShown_run shown _

end Traffic

namespace Call

/-- A call about to make a copy was so before, or has just copied. -/
theorem imprint_step (call : Call) (moment : Moment) (cache : Cache) {content : Option String}
    {tag : Option Tag} (known : (call.step moment cache).1.imprint? = some (content, tag)) :
    call.imprint? = some (content, tag) ∨
      ∃ source, content = (cache.heap.get source).content := by
  cases call with
  | lookup asked phase =>
      cases phase with
      | copying found =>
          simp only [step, Lookup.step, imprint?, Option.some.injEq, Prod.mk.injEq] at known
          exact .inr ⟨found, known.1.symm⟩
      | finding =>
          simp only [step, Lookup.step, Lookup.find] at known
          repeat' split at known
          all_goals simp [imprint?] at known
      | swapping found candidate =>
          simp only [step, Lookup.step, Lookup.swap] at known
          repeat' split at known
          all_goals simp [imprint?] at known
      | _ =>
          simp only [step, Lookup.step] at known
          repeat' split at known
          all_goals simp [imprint?] at known
  | copying asked phase =>
      cases phase with
      | reading =>
          simp only [step, Copying.step, imprint?, Option.some.injEq, Prod.mk.injEq] at known
          exact .inr ⟨asked.source, known.1.symm⟩
      | _ =>
          simp only [step, Copying.step] at known
          repeat' split at known
          all_goals simp [imprint?] at known
  | sweep phase => simp [step, imprint?] at known
  | removal phase => simp [step, imprint?] at known

/-- A call's step leaves contents and tags alone, or makes a copy. -/
theorem Effect.imprint_cases {call next : Call} {moment : Moment} {cache after : Cache}
    (effect : call.Effect moment cache next after) {entry : EntryId} {content : String}
    (there : (after.heap.get entry).content = some content) :
    after.heap.get entry = cache.heap.get entry ∨
      (call.imprint? = some (some content, (after.heap.get entry).tag) ∧
        (∃ now, moment.monotonic = .ok now) ∧ entry = cache.heap.next) := by
  by_cases new : entry = cache.heap.next
  · subst new
    cases effect with
    | created => simp [Entry.fresh, Entry.seeded] at there
    | stamped starts read =>
        simp only [Heap.get_add_next, Entry.seeded] at there ⊢
        exact .inr ⟨by rw [starts, there]; rfl, ⟨_, read⟩, trivial⟩
    | copied starts read =>
        simp only [Heap.get_add_next, Entry.seeded] at there ⊢
        exact .inr ⟨by rw [starts, there]; rfl, ⟨_, read⟩, trivial⟩
    | _ => exact .inl rfl
  · left
    cases effect with
    | created => exact Heap.get_add_of_ne new _
    | stamped => exact Heap.get_add_of_ne new _
    | copied => exact Heap.get_add_of_ne new _
    | _ => rfl

end Call

namespace Traffic
variable {traffic start : Traffic} {moves : List Move} {move : Move} {entry : EntryId}
  {content : String} {tag : Option Tag}

/-- Only a commit changes the content and the tag of an entry. -/
theorem imprint_onEntry (traffic : Traffic) (target entry : EntryId) {change : Entry → Entry}
    (keeps : ∀ state, (change state).content = state.content ∧ (change state).tag = state.tag) :
    ((traffic.onEntry target change).state entry).content = (traffic.state entry).content ∧
      ((traffic.onEntry target change).state entry).tag = (traffic.state entry).tag := by
  rw [state_onEntry]
  split
  · next same =>
      rw [same.2]
      exact keeps _
  · exact ⟨rfl, rfl⟩

/-- A commit makes its own content, or nothing new. -/
theorem imprint_commit {caller : ThreadId} {target : EntryId} {text : String} {label : Option Tag}
    {moment : Moment} (complete : ¬ traffic.breaks ⟨.commit caller target text label, moment⟩)
    (there : ((traffic.take ⟨.commit caller target text label, moment⟩).state entry).content =
      some content) :
    let after := (traffic.take ⟨.commit caller target text label, moment⟩).state entry
    traffic.commitsFor ⟨.commit caller target text label, moment⟩ entry content after.tag ∨
      (traffic.state entry = after ∧
        ∀ other name, ¬ traffic.commitsFor ⟨.commit caller target text label, moment⟩ entry other
          name) := by
  intro after
  have states : after = if traffic.isShown target = true ∧ entry = target then
      ((traffic.state target).commit caller text label moment.monotonic).2
    else traffic.state entry := state_onEntry traffic target entry _
  by_cases same : traffic.isShown target = true ∧ entry = target
  · rw [if_pos same] at states
    obtain ⟨shown, rfl⟩ := same
    rcases (traffic.state entry).commit_cases caller text label moment.monotonic with
      ⟨-, refused⟩ | ⟨-, fault, -, failed⟩ | ⟨-, now, -, made⟩
    · right
      refine ⟨by rw [states, refused], ?_⟩
      rintro other name ⟨thread, asks, -, returned⟩
      cases asks
      rw [refused] at returned
      cases returned
    · exact absurd ⟨caller, entry, text, label, fault, rfl, by rw [failed]⟩ complete
    · left
      rw [made] at states
      have written : some text = some content := (congrArg Entry.content states).symm.trans there
      obtain rfl := Option.some.inj written
      rw [states]
      exact ⟨caller, rfl, shown, by rw [made]⟩
  · rw [if_neg same] at states
    right
    refine ⟨states.symm, ?_⟩
    rintro other name ⟨thread, asks, shown, -⟩
    cases asks
    exact same ⟨shown, rfl⟩

/-- A move that is no commit commits nothing. -/
theorem not_commitsFor (other : ∀ caller target text label,
    move.action ≠ .commit caller target text label) (text : String) (label : Option Tag) :
    ¬ traffic.commitsFor move entry text label := by
  rintro ⟨caller, asks, -⟩
  exact other caller entry text label asks

/-- The content of an entry comes from a commit, its making, or before. -/
theorem imprint_take (complete : ¬ traffic.breaks move)
    (there : ((traffic.take move).state entry).content = some content) :
    traffic.commitsFor move entry content ((traffic.take move).state entry).tag ∨
    traffic.copies move entry content ((traffic.take move).state entry).tag ∨
    ((traffic.state entry).content = some content ∧
      (traffic.state entry).tag = ((traffic.take move).state entry).tag ∧
      ∀ text label, ¬ traffic.commitsFor move entry text label) := by
  obtain ⟨action, moment⟩ := move
  cases action with
  | commit caller target text label =>
      rcases imprint_commit complete there with made | ⟨same, idle⟩
      · exact .inl made
      · exact .inr (.inr ⟨same ▸ there, by rw [same], idle⟩)
  | acquire caller target request =>
      have keeps (state : Entry) :
          (state.acquire caller request moment.monotonic).2.content = state.content ∧
            (state.acquire caller request moment.monotonic).2.tag = state.tag := by
        rcases state.acquire_cases caller request moment.monotonic with
          ⟨_, -, same⟩ | ⟨-, _, -, same⟩ | ⟨-, _, -, -, same⟩ | ⟨-, _, -, -, same⟩ <;>
            rw [same] <;> exact ⟨rfl, rfl⟩
      have kept := traffic.imprint_onEntry target entry keeps
      exact .inr (.inr ⟨kept.1.symm.trans there, kept.2.symm, not_commitsFor (by simp)⟩)
  | release caller target =>
      have keeps (state : Entry) : (state.release caller).content = state.content ∧
          (state.release caller).tag = state.tag := by
        unfold Entry.release
        split <;> exact ⟨rfl, rfl⟩
      have kept := traffic.imprint_onEntry target entry keeps
      exact .inr (.inr ⟨kept.1.symm.trans there, kept.2.symm, not_commitsFor (by simp)⟩)
  | proceed number =>
      cases place : traffic.calls[number]? with
      | none =>
          have same : traffic.take ⟨.proceed number, moment⟩ = traffic := by simp [take, place]
          rw [same] at there ⊢
          exact .inr (.inr ⟨there, rfl, not_commitsFor (by simp)⟩)
      | some call =>
          have step : (traffic.take ⟨.proceed number, moment⟩).cache =
              (call.step moment traffic.cache).2 := by simp [take, place]
          have effect := Call.effect_step moment traffic.cache call
          rw [← step] at effect
          rcases effect.imprint_cases there with same | ⟨imprint, ⟨now, read⟩, new⟩
          · have same : (traffic.take ⟨.proceed number, moment⟩).state entry =
                traffic.state entry := same
            rw [same] at there ⊢
            exact .inr (.inr ⟨there, rfl, not_commitsFor (by simp)⟩)
          · refine .inr (.inl ⟨number, call, rfl, place, imprint, ?_, new⟩)
            rw [Move.instant?_of_read read]
            simp
  | begin task =>
      have same : (traffic.take ⟨.begin task, moment⟩).state entry = traffic.state entry := by
        simp only [take]
        split <;> rfl
      rw [same] at there ⊢
      exact .inr (.inr ⟨there, rfl, not_commitsFor (by simp)⟩)
  | evict key target => exact .inr (.inr ⟨there, rfl, not_commitsFor (by simp)⟩)

/-- A call about to make a copy was so before, or has just copied. -/
theorem imprint_calls_take {call : Call} (inside : call ∈ (traffic.take move).calls)
    {copied : Option String} (known : call.imprint? = some (copied, tag)) :
    (∃ old ∈ traffic.calls, old.imprint? = some (copied, tag)) ∨
      ∃ source, copied = (traffic.state source).content := by
  obtain ⟨action, moment⟩ := move
  have kept (same : (traffic.take ⟨action, moment⟩).calls = traffic.calls) :
      (∃ old ∈ traffic.calls, old.imprint? = some (copied, tag)) ∨
        ∃ source, copied = (traffic.state source).content := .inl ⟨call, same ▸ inside, known⟩
  cases action with
  | proceed number =>
      cases place : traffic.calls[number]? with
      | none => exact kept (by simp [take, place])
      | some old =>
          have step : (traffic.take ⟨.proceed number, moment⟩).calls =
              traffic.calls.set number (old.step moment traffic.cache).1 := by simp [take, place]
          rw [step] at inside
          rcases mem_set_calls inside with rfl | ⟨other, -, there⟩
          · rcases old.imprint_step moment traffic.cache known with before | copied
            · exact .inl ⟨old, List.mem_of_getElem? place, before⟩
            · exact .inr copied
          · exact .inl ⟨call, List.mem_of_getElem? there, known⟩
  | begin task =>
      simp only [take] at inside
      split at inside
      · rcases List.mem_append.mp inside with old | new
        · exact .inl ⟨call, old, known⟩
        · rw [List.mem_singleton.mp new] at known
          cases task <;> simp [Task.start, Call.imprint?] at known
      · exact .inl ⟨call, inside, known⟩
  | acquire caller target request => exact kept (traffic.calls_onEntry _ _)
  | commit caller target text label => exact kept (traffic.calls_onEntry _ _)
  | release caller target => exact kept (traffic.calls_onEntry _ _)
  | evict key target => exact kept rfl

namespace Backed

/-- However an entry has come to its content, the content has been committed. -/
theorem isCommitted (backed : start.Backed moves entry content tag) :
    start.Committed moves content := by
  cases backed with
  | committed made => exact ⟨entry, tag, made⟩
  | copied _ _ elsewhere => exact elsewhere

/-- An entry keeps its history while nothing is committed on it. -/
theorem concat (backed : start.Backed moves entry content tag)
    (idle : ∀ text label, ¬ (start.run moves).commitsFor move entry text label) :
    start.Backed (moves ++ [move]) entry content tag := by
  cases backed with
  | committed made => exact .committed (occurs_concat_iff.mpr (.inl made))
  | copied made untouched elsewhere =>
      refine .copied (occurs_concat_iff.mpr (.inl made)) ?_ elsewhere.concat
      intro text label written
      rcases occurs_concat_iff.mp written with before | now
      · exact untouched text label before
      · exact idle text label now

/-- An entry just made as a copy has no history of its own. -/
theorem of_copies (copied : (start.run moves).copies move entry content tag)
    (elsewhere : start.Committed moves content) :
    start.Backed (moves ++ [move]) entry content tag := by
  refine .copied (occurs_concat_iff.mpr (.inr copied)) ?_ elsewhere.concat
  obtain ⟨number, call, proceeds, -, -, -, rfl⟩ := copied
  intro text label written
  rcases occurs_concat_iff.mp written with before | ⟨thread, asks, -⟩
  · exact Heap.ne_next_of_holds _ (holds_of_isShown (isShown_of_commitsFor before)) rfl
  · rw [proceeds] at asks
    cases asks

end Backed

/-- After a run every content is backed, and every copied one. -/
structure Sourced (start : Traffic) (moves : List Move) : Prop where
  entries : ∀ entry content, ((start.run moves).state entry).content = some content →
    start.Backed moves entry content ((start.run moves).state entry).tag
  calls : ∀ call ∈ (start.run moves).calls, ∀ content tag,
    call.imprint? = some (some content, tag) → start.Committed moves content

namespace Sourced

/-- A move that is no broken commit keeps every content backed. -/
theorem concat (sourced : start.Sourced moves) (complete : ¬ (start.run moves).breaks move) :
    start.Sourced (moves ++ [move]) where
  entries := by
    intro entry content there
    rw [run_append] at there ⊢
    rcases imprint_take complete there with made | made | ⟨before, sameTag, idle⟩
    · exact .committed (occurs_concat_iff.mpr (.inr made))
    · refine .of_copies made ?_
      obtain ⟨number, call, -, place, imprint, -⟩ := made
      exact sourced.calls call (List.mem_of_getElem? place) content _ imprint
    · have backed := (sourced.entries entry content before).concat idle
      rwa [sameTag] at backed
  calls := by
    intro call inside content tag known
    rw [run_append] at inside
    rcases imprint_calls_take inside known with ⟨old, there, before⟩ | ⟨source, copied⟩
    · exact (sourced.calls old there content tag before).concat
    · exact (sourced.entries source content copied.symm).isCommitted.concat

/-- In a new store there is no content. -/
theorem opened (hash : String → Nat) (count : Nat) (positive : 0 < count) (ceiling : Duration) :
    (Traffic.opened hash count positive ceiling).Sourced [] where
  entries := by
    intro entry content there
    rw [run_nil, state_opened] at there
    cases there
  calls := by simp [Traffic.opened]

/-- On a new store every content is backed, if no commit broke. -/
theorem run_opened (hash : String → Nat) (count : Nat) (positive : 0 < count) (ceiling : Duration)
    (moves : List Move)
    (complete : ¬ (Traffic.opened hash count positive ceiling).Occurs moves (·.breaks ·)) :
    (Traffic.opened hash count positive ceiling).Sourced moves := by
  induction moves using List.reverseRecOn with
  | nil => exact opened hash count positive ceiling
  | append_singleton moves last ih =>
      rw [occurs_concat_iff, not_or] at complete
      exact (ih complete.1).concat complete.2

end Sourced

/-- Content denied for a tag was committed for it or for none, or came as a copy under that tag. -/
theorem tag_honest {hash : String → Nat} {count : Nat} {positive : 0 < count} {ceiling : Duration}
    {moves : List Move} {caller : ThreadId} {asked : Tag} {reading : Reading}
    (complete : ¬ (opened hash count positive ceiling).Occurs moves (·.breaks ·))
    (unlocked : (((opened hash count positive ceiling).run moves).state entry).hold = none)
    (denied : ((((opened hash count positive ceiling).run moves).state entry).acquire caller
      (.ifStale (some asked)) reading).1.map Acquisition.held = .ok false) :
    ∃ content tag, (((opened hash count positive ceiling).run moves).state entry).content =
        some content ∧
      (tag = none ∨ tag = some asked) ∧
      (opened hash count positive ceiling).Backed moves entry content tag := by
  obtain ⟨content, there, current⟩ := Entry.imprint_of_denied unlocked denied
  have sourced := Sourced.run_opened hash count positive ceiling moves complete
  exact ⟨content, _, there, current, sourced.entries entry content there⟩

/-- Content for "v1" is taken over by a lookup under "v2". -/
def takeover : List Move :=
  [.timed 0 (.begin (.lookup ⟨"k", Tag.ofText? "v1", ⟨5⟩⟩)), .timed 0 (.proceed 0),
    .timed 0 (.acquire ⟨1⟩ ⟨0⟩ .forced), .timed 0 (.commit ⟨1⟩ ⟨0⟩ "old" (Tag.ofText? "v1")),
    .timed 0 (.acquire ⟨1⟩ ⟨0⟩ .forced), .timed 9 (.begin (.lookup ⟨"k", Tag.ofText? "v2", ⟨5⟩⟩)),
    .timed 9 (.proceed 1), .timed 9 (.proceed 1), .timed 9 (.proceed 1), .timed 9 (.proceed 1),
    .timed 9 (.proceed 1), .timed 9 (.proceed 1)]

theorem takeover_complete : ¬ traffic.Occurs takeover (·.breaks ·) := by
  rintro ⟨passed, move, begins, thread, entry, content, tag, fault, -, fails⟩
  have inside : move ∈ takeover := begins.subset (by simp)
  have reads : ∀ move ∈ takeover, move.instant? ≠ none := by decide
  refine reads move inside ?_
  rw [Move.instant?, (Entry.commit_of_fault _ _ fails).1]
  rfl

/-- The one content of the takeover was committed for "v1". -/
theorem tag_of_occurs_takeover {other : EntryId}
    (made : traffic.Occurs takeover (·.commitsFor · other content tag)) :
    tag = Tag.ofText? "v1" := by
  obtain ⟨passed, move, begins, thread, asks, -⟩ := made
  have inside : move ∈ takeover := begins.subset (by simp)
  simp only [takeover, List.mem_cons, List.not_mem_nil, or_false] at inside
  rcases inside with rfl | rfl | rfl | rfl | rfl | rfl | rfl | rfl | rfl | rfl | rfl | rfl <;>
    cases asks
  rfl

/-- The copy is fresh for the tag it was given. -/
theorem tag_honest_of_copy :
    ∃ content tag, (((opened (fun _ => 0) 1 Nat.one_pos ⟨9⟩).run takeover).state ⟨1⟩).content =
        some content ∧
      (tag = none ∨ tag = some ⟨"v2", by decide⟩) ∧
      (opened (fun _ => 0) 1 Nat.one_pos ⟨9⟩).Backed takeover ⟨1⟩ content tag := by
  have denied : ((((opened (fun _ => 0) 1 Nat.one_pos ⟨9⟩).run takeover).state ⟨1⟩).acquire ⟨2⟩
      (.ifStale (some ⟨"v2", by decide⟩)) (.ok ⟨9⟩)).1.map Acquisition.held = .ok false := by
    decide +kernel
  exact tag_honest takeover_complete (by decide +kernel) denied

/-- The copy denies "v2", though its content was committed for "v1" alone. -/
theorem not_always_honest :
    ¬ ∀ hash count, ∀ positive : 0 < count, ∀ ceiling moves entry caller asked reading,
      ¬ (opened hash count positive ceiling).Occurs moves (·.breaks ·) →
      (((opened hash count positive ceiling).run moves).state entry).hold = none →
      ((((opened hash count positive ceiling).run moves).state entry).acquire caller
        (.ifStale (some asked)) reading).1.map Acquisition.held = .ok false →
      ∃ content tag other, (((opened hash count positive ceiling).run moves).state entry).content =
          some content ∧
        (tag = none ∨ tag = some asked) ∧
        (opened hash count positive ceiling).Occurs moves (·.commitsFor · other content tag) := by
  intro always
  obtain ⟨content, tag, other, -, asked, made⟩ := always (fun _ => 0) 1 Nat.one_pos ⟨9⟩ takeover ⟨1⟩
    ⟨2⟩ ⟨"v2", by decide⟩ (.ok ⟨9⟩) takeover_complete (by decide +kernel) (by decide +kernel)
  rw [tag_of_occurs_takeover made] at asked
  revert asked
  decide

end Traffic

end SingleFlight
