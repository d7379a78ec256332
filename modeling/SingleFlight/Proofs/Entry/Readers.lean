import SingleFlight.Gate
import SingleFlight.Proofs.Entry.History

namespace SingleFlight

deriving instance DecidableEq for Reader

/-- A reader, and how long it is ready to wait. -/
structure Visitor where
  timeout : Duration
  reader : Reader
  deriving DecidableEq

/-- One entry and its readers, each under the number of its arrival. -/
structure Hall where
  entry : Entry
  visitors : List Visitor

/-- A move of a reader, or a thread's operation on the entry. -/
inductive HallMove where
  | arrive (timeout : Duration)
  | look (number : Nat)
  -- The deadline may come at any move, which covers waits of any length.
  | expire (number : Nat)
  /-- A waiting reader is woken, although the gate may be closed. -/
  | stir (number : Nat)
  | operate (use : EntryUse)
  deriving DecidableEq, Repr

/-- The operation on the entry in a move. -/
def HallMove.use? : HallMove → Option EntryUse
  | .operate use => some use
  | _ => none

/-- The reader that a move adds. -/
def HallMove.newcomers : HallMove → List Visitor
  | .arrive timeout => [⟨timeout, .arriving⟩]
  | _ => []

/-- The entry after a move. -/
def HallMove.after (move : HallMove) (entry : Entry) : Entry :=
  match move with
  | .operate use => use.after entry
  | _ => entry

namespace EntryUse

/-- Whether an operation signals at the gate of the entry. -/
def signals (use : EntryUse) (entry : Entry) : Bool :=
  match use.operation with
  | .commit content condition =>
    (entry.commitAndSignal use.caller content (Tag.normalized condition) (.ok use.now)).signals
  | .tryAcquire _ | .forceAcquire | .release => false

/-- An operation signals exactly if it opens the gate. -/
theorem signals_eq (use : EntryUse) (entry : Entry) :
    use.signals entry = entry.opensGate (use.after entry) := by
  have granted (request : Request) (reading : Reading) :
      (entry.acquire use.caller request reading).2.gateOpen = entry.gateOpen := by
    rcases entry.acquire_cases use.caller request reading with
      ⟨hold, -, same⟩ | ⟨-, fault, -, same⟩ | ⟨-, now, -, -, same⟩ | ⟨-, now, -, -, same⟩ <;> rw [same]
  cases asks : use.operation with
  | tryAcquire condition =>
      simp [signals, after, lockCall, LockCall.after, EntryOperation.onLock, asks, Entry.opensGate, granted]
  | forceAcquire =>
      simp [signals, after, lockCall, LockCall.after, EntryOperation.onLock, asks, Entry.opensGate, granted]
  | commit content condition =>
      simp only [signals, after, lockCall, LockCall.after, EntryOperation.onLock, asks]
      exact entry.signals_commit use.caller content _ _
  | release =>
      have kept : (entry.release use.caller).gateOpen = entry.gateOpen := by
        unfold Entry.release
        split <;> rfl
      simp [signals, after, lockCall, LockCall.after, EntryOperation.onLock, asks, Entry.opensGate, kept]

end EntryUse

namespace Hall

/-- Where a reader stands after a move. A signal wakes every waiting reader. -/
def next (hall : Hall) (move : HallMove) (number : Nat) (visitor : Visitor) : Reader :=
  match move with
  | .arrive _ => visitor.reader
  | .look own =>
    if own = number then visitor.reader.look visitor.timeout hall.entry else visitor.reader
  | .expire own => if own = number then visitor.reader.expire else visitor.reader
  | .stir own => if own = number then visitor.reader.notify else visitor.reader
  | .operate use =>
    if use.signals hall.entry then visitor.reader.notify else visitor.reader

/-- The hall after a move. -/
def take (hall : Hall) (move : HallMove) : Hall where
  entry := move.after hall.entry
  visitors :=
    hall.visitors.mapIdx
        (fun number visitor => { visitor with reader := hall.next move number visitor })
      ++ move.newcomers

/-- The hall after moves one after the other. -/
def run (hall : Hall) (moves : List HallMove) : Hall := moves.foldl take hall

/-- An entry to which no reader has come. -/
def opened (entry : Entry) : Hall := ⟨entry, []⟩

theorem run_append (hall : Hall) (first rest : List HallMove) :
    hall.run (first ++ rest) = (hall.run first).run rest := List.foldl_append

theorem run_concat (hall : Hall) (moves : List HallMove) (move : HallMove) :
    hall.run (moves ++ [move]) = (hall.run moves).take move := hall.run_append moves [move]

/-- A reader after a move has just come, or has gone one move on. -/
theorem visitors_take {hall : Hall} {move : HallMove} {number : Nat} {visitor : Visitor}
    (there : (hall.take move).visitors[number]? = some visitor) :
    (hall.visitors[number]? = none ∧ visitor.reader = .arriving) ∨
    ∃ reader, hall.visitors[number]? = some ⟨visitor.timeout, reader⟩ ∧
      visitor.reader = hall.next move number ⟨visitor.timeout, reader⟩ := by
  rw [take, List.getElem?_append] at there
  split at there
  · right
    rw [List.getElem?_mapIdx, Option.map_eq_some_iff] at there
    obtain ⟨earlier, found, rfl⟩ := there
    exact ⟨earlier.reader, found, rfl⟩
  · next beyond =>
      left
      rw [List.length_mapIdx, Nat.not_lt] at beyond
      refine ⟨List.getElem?_eq_none beyond, ?_⟩
      cases move with
      | arrive timeout =>
          rw [HallMove.newcomers, List.getElem?_singleton] at there
          split at there
          · cases there
            rfl
          · cases there
      | look | expire | stir | operate => cases there

/-- The entry of a hall changes by the operations alone. -/
theorem entry_run (entry : Entry) (moves : List HallMove) :
    ((opened entry).run moves).entry = entry.afterUses (moves.filterMap HallMove.use?) := by
  induction moves using List.reverseRecOn with
  | nil => rfl
  | append_singleton earlier move ih =>
      rw [run_concat, take, ih, List.filterMap_append]
      simp only [Entry.afterUses, List.foldl_append]
      cases move <;> rfl

end Hall

namespace Reader
variable {reader : Reader} {timeout : Duration} {entry : Entry}

/-- A reader that enters the wait has found the gate closed. -/
theorem closed_of_parks (moving : reader ≠ .parked) (parks : reader.look timeout entry = .parked) :
    entry.gateOpen = false := by
  cases shut : entry.gateOpen with
  | false => rfl
  | true => cases reader <;> simp_all [look]

/-- A look behind an open gate returns the content. -/
theorem look_of_open {text : String} (isOpen : entry.gateOpen = true)
    (content : entry.content = some text) (moving : reader ≠ .parked) :
    (∃ result, reader = .returned result) ∨ reader.look timeout entry = .returned (.ok text) := by
  have served : conclude timeout entry = .ok text := by
    simp [conclude, Entry.served, isOpen, content]
  cases reader with
  | arriving | notified => simp [look, isOpen, served]
  | late => simp [look, served]
  | parked => exact absurd rfl moving
  | returned result => exact .inl ⟨result, rfl⟩

/-- A reader ends without content only behind a closed gate, with its own timeout. -/
theorem conclude_error {fault : TimedOut} (ends : conclude timeout entry = .error fault) :
    entry.served = none ∧ fault = ⟨timeout⟩ := by
  unfold conclude at ends
  split at ends
  · cases ends
  · next unserved => exact ⟨unserved, (Except.error.inj ends).symm⟩

/-- A reader that ends with a content has been served it. -/
theorem conclude_ok {text : String} (ends : conclude timeout entry = .ok text) :
    entry.served = some text := by
  unfold conclude at ends
  split at ends
  · next served => rwa [Except.ok.inj ends] at served
  · cases ends

/-- A reader returns at an open gate, or at the look after its deadline. -/
theorem look_returns {result : Except TimedOut String}
    (before : ∀ earlier, reader ≠ .returned earlier)
    (returns : reader.look timeout entry = .returned result) :
    conclude timeout entry = result ∧ (entry.gateOpen = true ∨ reader = .late) := by
  cases reader with
  | arriving | notified =>
      by_cases isOpen : entry.gateOpen = true
      · rw [look, if_pos isOpen] at returns
        exact ⟨Reader.returned.inj returns, .inl isOpen⟩
      · rw [look, if_neg isOpen] at returns
        cases returns
  | late => exact ⟨Reader.returned.inj returns, .inr rfl⟩
  | parked => cases returns
  | returned earlier => exact absurd rfl (before earlier)

/-- Only a look ends in a return. -/
theorem notify_returned {result : Except TimedOut String} (returned : reader.notify = .returned result) :
    reader = .returned result := by
  cases reader <;> simp_all [notify]

theorem expire_returned {result : Except TimedOut String} (returned : reader.expire = .returned result) :
    reader = .returned result := by
  cases reader <;> simp_all [expire]

theorem notify_not_parked (reader : Reader) : reader.notify ≠ .parked := by
  cases reader <;> simp [notify]

theorem expire_not_parked (reader : Reader) : reader.expire ≠ .parked := by
  cases reader <;> simp [expire]

end Reader

/-- A commit that returned true. -/
def Deed.completes (deed : Deed) : Prop :=
  (∃ content condition, deed.use.operation = .commit content condition) ∧ deed.answer = some true

theorem Version.latest_concat (seed : Version) (history : List Deed) (deed : Deed) :
    seed.latest (history ++ [deed]) = (seed.latest history).next deed := List.foldl_append

/-- After a commit that returned true there is a content for good. -/
theorem Version.isSome_latest (seed : Version) {history : List Deed} {deed : Deed}
    (listed : deed ∈ history) (completes : deed.completes) :
    (seed.latest history).content.isSome = true := by
  induction history using List.reverseRecOn with
  | nil => cases listed
  | append_singleton earlier last ih =>
      rw [latest_concat]
      rcases List.mem_append.mp listed with before | same
      · unfold next
        split
        · split
          · rfl
          · exact ih before
        · exact ih before
        · exact ih before
        · exact ih before
      · obtain rfl := List.mem_singleton.mp same
        obtain ⟨⟨content, condition, commits⟩, returned⟩ := completes
        simp [next, commits, returned]

namespace Hall
variable {hall : Hall} {move : HallMove} {moves : List HallMove} {number : Nat} {timeout : Duration}
  {reader : Reader}

/-- A move leaves a reader, or is its look, or takes it out of the wait. -/
theorem next_cases (hall : Hall) (move : HallMove) (number : Nat) (visitor : Visitor) :
    (hall.next move number visitor = visitor.reader ∧
      hall.entry.opensGate (move.after hall.entry) = false) ∨
    (move = .look number ∧
      hall.next move number visitor = visitor.reader.look visitor.timeout hall.entry) ∨
    hall.next move number visitor = visitor.reader.notify ∨
    hall.next move number visitor = visitor.reader.expire := by
  have unchanged : hall.entry.opensGate hall.entry = false := by simp [Entry.opensGate]
  cases move with
  | arrive => exact .inl ⟨rfl, unchanged⟩
  | look own =>
      by_cases same : own = number
      · exact .inr (.inl ⟨by rw [same], if_pos same⟩)
      · exact .inl ⟨if_neg same, unchanged⟩
  | expire own =>
      by_cases same : own = number
      · exact .inr (.inr (.inr (if_pos same)))
      · exact .inl ⟨if_neg same, unchanged⟩
  | stir own =>
      by_cases same : own = number
      · exact .inr (.inr (.inl (if_pos same)))
      · exact .inl ⟨if_neg same, unchanged⟩
  | operate use =>
      by_cases signals : use.signals hall.entry = true
      · exact .inr (.inr (.inl (if_pos signals)))
      · exact .inl ⟨if_neg signals, (use.signals_eq hall.entry).symm.trans (Bool.eq_false_iff.mpr signals)⟩

/-- A waiting reader waited before, or has just found the gate closed. -/
theorem parked_take (parked : (hall.take move).visitors[number]? = some ⟨timeout, .parked⟩) :
    (hall.visitors[number]? = some ⟨timeout, .parked⟩ ∧
      hall.entry.opensGate (hall.take move).entry = false) ∨
    (move = .look number ∧ hall.entry.gateOpen = false) := by
  rcases visitors_take parked with ⟨-, arrived⟩ | ⟨reader, there, stands⟩
  · cases arrived
  rcases hall.next_cases move number ⟨timeout, reader⟩ with
    ⟨stays, still⟩ | ⟨looks, look⟩ | woken | expired
  · obtain rfl : Reader.parked = reader := stands.trans stays
    exact .inl ⟨there, still⟩
  · by_cases waiting : reader = .parked
    · rw [looks]
      exact .inl ⟨waiting ▸ there, by simp [take, HallMove.after, Entry.opensGate]⟩
    · exact .inr ⟨looks, Reader.closed_of_parks waiting (stands.trans look).symm⟩
  · exact absurd (stands.trans woken).symm reader.notify_not_parked
  · exact absurd (stands.trans expired).symm reader.expire_not_parked

/-- Behind an open gate nobody waits. -/
theorem not_parked_of_open (entry : Entry) (moves : List HallMove)
    (isOpen : ((opened entry).run moves).entry.gateOpen = true) (number : Nat) (timeout : Duration) :
    ((opened entry).run moves).visitors[number]? ≠ some ⟨timeout, .parked⟩ := by
  induction moves using List.reverseRecOn with
  | nil => simp [run, opened]
  | append_singleton earlier move ih =>
      rw [run_concat] at isOpen ⊢
      intro parked
      rcases parked_take parked with ⟨waiting, still⟩ | ⟨rfl, shut⟩
      · -- It was in the wait already, so the gate was closed, and this move would have opened it.
        have shut : ((opened entry).run earlier).entry.gateOpen = false := by
          cases before : ((opened entry).run earlier).entry.gateOpen with
          | false => rfl
          | true => exact absurd waiting (ih before)
        simp [Entry.opensGate, shut, isOpen] at still
      · exact Bool.false_ne_true (shut.symm.trans isOpen)

/-- The last look of a reader within some moves, at which it returned. -/
structure FinalLook (hall : Hall) (moves : List HallMove) (number : Nat) (timeout : Duration)
    (earlier : List HallMove) (reader : Reader) (result : Except TimedOut String) : Prop where
  within : ∃ later, moves = earlier ++ .look number :: later
  there : (hall.run earlier).visitors[number]? = some ⟨timeout, reader⟩
  pending : ∀ other, reader ≠ .returned other
  returns : reader.look timeout (hall.run earlier).entry = .returned result

/-- A reader that has returned did so before the move, or at it. -/
theorem returned_take {result : Except TimedOut String}
    (returned : (hall.take move).visitors[number]? = some ⟨timeout, .returned result⟩) :
    hall.visitors[number]? = some ⟨timeout, .returned result⟩ ∨
    ∃ reader, move = .look number ∧ hall.visitors[number]? = some ⟨timeout, reader⟩ ∧
      (∀ other, reader ≠ .returned other) ∧ reader.look timeout hall.entry = .returned result := by
  rcases visitors_take returned with ⟨-, arrived⟩ | ⟨reader, there, stands⟩
  · cases arrived
  have kept (same : reader = .returned result) :
      hall.visitors[number]? = some ⟨timeout, .returned result⟩ := by rw [there, same]
  rcases hall.next_cases move number ⟨timeout, reader⟩ with
    ⟨stays, -⟩ | ⟨looks, look⟩ | woken | expired
  · exact .inl (kept (stands.trans stays).symm)
  · by_cases before : ∃ other, reader = .returned other
    · obtain ⟨other, rfl⟩ := before
      exact .inl (kept (stands.trans look).symm)
    · exact .inr ⟨reader, looks, there, not_exists.mp before, (stands.trans look).symm⟩
  · exact .inl (kept (Reader.notify_returned (stands.trans woken).symm))
  · exact .inl (kept (Reader.expire_returned (stands.trans expired).symm))

/-- A reader that has returned did so at its last look. -/
theorem finalLook_of_returned (entry : Entry) (moves : List HallMove)
    {result : Except TimedOut String}
    (returned : ((opened entry).run moves).visitors[number]? = some ⟨timeout, .returned result⟩) :
    ∃ earlier reader, (opened entry).FinalLook moves number timeout earlier reader result := by
  induction moves using List.reverseRecOn with
  | nil => cases returned
  | append_singleton earlier move ih =>
      rw [run_concat] at returned
      rcases returned_take returned with before | ⟨reader, rfl, there, pending, returns⟩
      · obtain ⟨first, reader, ⟨later, rfl⟩, there, pending, returns⟩ := ih before
        exact ⟨first, reader, ⟨later ++ [move], by simp⟩, there, pending, returns⟩
      · exact ⟨earlier, reader, ⟨[], rfl⟩, there, pending, returns⟩

section
variable (origin : Origin) (condition : Option String) (ttl : Duration) (made : Instant)

/-- The content some moves leave: that of the latest commit, or the first one. -/
def latest (moves : List HallMove) : Option String :=
  let uses := moves.filterMap HallMove.use?
  (Version.latest ⟨origin.content, condition, made⟩
    ((origin.entry condition ttl made).history uses)).content

/-- An entry's gate is open exactly if it holds the content given. -/
structure Offers (entry : Entry) (text : Option String) : Prop where
  content : entry.content = text
  isOpen : entry.gateOpen = text.isSome

/-- The gate hides no content, and is open to nothing else. -/
theorem Offers.served {entry : Entry} {text : Option String} (offers : Offers entry text) :
    entry.served = text := by
  rw [Entry.served, offers.content, offers.isOpen]
  cases text <;> rfl

/-- The entry offers the latest content. -/
theorem offers_latest (moves : List HallMove) :
    Offers ((opened (origin.entry condition ttl made)).run moves).entry
      (latest origin condition ttl made moves) := by
  have tells := (Entry.tells_origin origin condition ttl made).run (moves.filterMap HallMove.use?)
  rw [← entry_run] at tells
  exact ⟨tells.content, tells.gate⟩

/-- No interleaving loses a reader: commits wake all, waits and timeouts need a closed gate, contents are
current. -/
theorem gate_loses_no_reader (moves : List HallMove) :
    let entry := origin.entry condition ttl made
    let after (moves : List HallMove) := (opened entry).run moves
    let latest := latest origin condition ttl made
    ((∃ deed ∈ entry.history (moves.filterMap HallMove.use?), deed.completes) →
      ∃ text, latest moves = some text ∧ ∀ visitor ∈ (after moves).visitors,
        visitor.reader ≠ .parked ∧
        ((∃ result, visitor.reader = .returned result) ∨
          visitor.reader.look visitor.timeout (after moves).entry = .returned (.ok text))) ∧
    (∀ earlier move later (number : Nat) (timeout : Duration), moves = earlier ++ move :: later →
      (after earlier).visitors[number]? ≠ some ⟨timeout, .parked⟩ →
      (after (earlier ++ [move])).visitors[number]? = some ⟨timeout, .parked⟩ →
      (after earlier).entry.gateOpen = false) ∧
    (∀ number timeout fault, (after moves).visitors[number]? = some ⟨timeout, .returned (.error fault)⟩ →
      fault.waited = timeout ∧
      ∃ earlier, (opened entry).FinalLook moves number timeout earlier .late (.error fault) ∧
        (after earlier).entry.gateOpen = false ∧ latest earlier = none) ∧
    ∀ number timeout text, (after moves).visitors[number]? = some ⟨timeout, .returned (.ok text)⟩ →
      ∃ earlier reader, (opened entry).FinalLook moves number timeout earlier reader (.ok text) ∧
        (after earlier).entry.gateOpen = true ∧ latest earlier = some text := by
  intro entry after latest
  have gate (moves : List HallMove) : Offers (after moves).entry (latest moves) :=
    offers_latest origin condition ttl made moves
  refine ⟨?_, ?_, ?_, ?_⟩
  · rintro ⟨deed, listed, completes⟩
    have present : (latest moves).isSome = true :=
      Version.isSome_latest ⟨origin.content, condition, made⟩ listed completes
    obtain ⟨text, there⟩ := Option.isSome_iff_exists.mp present
    have isOpen : (after moves).entry.gateOpen = true := by rw [(gate moves).isOpen, present]
    refine ⟨text, there, ?_⟩
    intro visitor listed
    obtain ⟨number, found⟩ := List.mem_iff_getElem?.mp listed
    have moving : visitor.reader ≠ .parked := by
      intro parked
      apply not_parked_of_open entry moves isOpen number visitor.timeout
      rw [found, ← parked]
    exact ⟨moving, Reader.look_of_open isOpen ((gate moves).content.trans there) moving⟩
  · intro earlier move later number timeout _ before waits
    rw [show after (earlier ++ [move]) = (after earlier).take move from run_concat _ _ _] at waits
    rcases parked_take waits with ⟨waiting, -⟩ | ⟨-, shut⟩
    · exact absurd waiting before
    · exact shut
  · intro number timeout fault returned
    obtain ⟨earlier, reader, final⟩ := finalLook_of_returned entry moves returned
    obtain ⟨concludes, stands⟩ := Reader.look_returns final.pending final.returns
    obtain ⟨unserved, rfl⟩ := Reader.conclude_error concludes
    have absent : latest earlier = none := (gate earlier).served.symm.trans unserved
    have shut : (after earlier).entry.gateOpen = false := by
      rw [(gate earlier).isOpen, absent, Option.isSome_none]
    obtain rfl : reader = .late := stands.resolve_left (Bool.eq_false_iff.mp shut)
    exact ⟨rfl, earlier, final, shut, absent⟩
  · intro number timeout text returned
    obtain ⟨earlier, reader, final⟩ := finalLook_of_returned entry moves returned
    have served := Reader.conclude_ok (Reader.look_returns final.pending final.returns).1
    have there : latest earlier = some text := (gate earlier).served.symm.trans served
    have isOpen : (after earlier).entry.gateOpen = true := by
      rw [(gate earlier).isOpen, there, Option.isSome_some]
    exact ⟨earlier, reader, final, isOpen, there⟩

end

/-- One of three waiting readers gives up, one outlives its deadline, one wakes late. -/
def vigil : List HallMove :=
  [.arrive ⟨5⟩, .arrive ⟨7⟩, .arrive ⟨3⟩, .operate ⟨⟨1⟩, .tryAcquire none, ⟨0⟩⟩,
    .look 0, .look 1, .look 2, .expire 0, .look 0, .expire 2,
    .operate ⟨⟨1⟩, .commit "first" none, ⟨2⟩⟩, .look 2, .operate ⟨⟨2⟩, .forceAcquire, ⟨3⟩⟩,
    .arrive ⟨0⟩, .look 3, .operate ⟨⟨2⟩, .commit "second" none, ⟨4⟩⟩, .look 1]

/-- The first reader reports its timeout, and nobody is left in the wait. -/
theorem gate_loses_no_reader_of_vigil :
    let entry := (Origin.new ⟨9⟩).entry none ⟨100⟩ ⟨0⟩
    let hall := (opened entry).run vigil
    hall.visitors =
        [⟨⟨5⟩, .returned (.error ⟨⟨5⟩⟩)⟩, ⟨⟨7⟩, .returned (.ok "second")⟩,
          ⟨⟨3⟩, .returned (.ok "first")⟩, ⟨⟨0⟩, .returned (.ok "first")⟩] ∧
      (∀ visitor ∈ hall.visitors, visitor.reader ≠ .parked) ∧
      ((opened entry).run (vigil.take 6)).entry.gateOpen = false ∧
      (∃ earlier, (opened entry).FinalLook vigil 0 ⟨5⟩ earlier .late (.error ⟨⟨5⟩⟩) ∧
        latest (.new ⟨9⟩) none ⟨100⟩ ⟨0⟩ earlier = none) ∧
      ∃ earlier reader, (opened entry).FinalLook vigil 1 ⟨7⟩ earlier reader (.ok "second") ∧
        latest (.new ⟨9⟩) none ⟨100⟩ ⟨0⟩ earlier = some "second" := by
  intro entry hall
  have stands : hall.visitors =
      [⟨⟨5⟩, .returned (.error ⟨⟨5⟩⟩)⟩, ⟨⟨7⟩, .returned (.ok "second")⟩,
        ⟨⟨3⟩, .returned (.ok "first")⟩, ⟨⟨0⟩, .returned (.ok "first")⟩] := by decide +kernel
  obtain ⟨woken, closed, gaveUp, served⟩ := gate_loses_no_reader (.new ⟨9⟩) none ⟨100⟩ ⟨0⟩ vigil
  obtain ⟨text, -, moving⟩ := woken
    ⟨⟨⟨⟨1⟩, .commit "first" none, ⟨2⟩⟩, some true⟩, by decide +kernel, ⟨"first", none, rfl⟩, rfl⟩
  have shut : ((opened entry).run (vigil.take 6)).entry.gateOpen = false := by
    apply closed (vigil.take 6) (.look 2) (vigil.drop 7) 2 ⟨3⟩ rfl
    · intro early
      cases early
    · rfl
  obtain ⟨-, earlier, final, -, none⟩ := gaveUp 0 ⟨5⟩ ⟨⟨5⟩⟩ (by rw [stands]; rfl)
  obtain ⟨before, reader, last, -, there⟩ := served 1 ⟨7⟩ "second" (by rw [stands]; rfl)
  exact ⟨stands, fun visitor listed => (moving visitor listed).1, shut, ⟨earlier, final, none⟩,
    before, reader, last, there⟩

end Hall

end SingleFlight
