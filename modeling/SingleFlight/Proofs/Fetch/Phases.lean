import SingleFlight.Fetch

namespace SingleFlight.Fetch.Phase

/-- A fetch goes from one phase to another without its producer. -/
inductive Leads : Phase → Phase → Prop where
  | rests {phase : Phase} : Leads phase phase
  | looked {inner next : Lookup.Phase} : Leads (.looking inner) (.looking next)
  | handed {inner : Lookup.Phase} {entry : EntryId} : Leads (.looking inner) (.acquiring entry)
  | missed {inner : Lookup.Phase} {message : String} :
    Leads (.looking inner) (.finished (.crashed message))
  | granted {entry : EntryId} : Leads (.acquiring entry) (.producing entry)
  | denied {entry : EntryId} : Leads (.acquiring entry) (.waiting entry .arriving)
  | refused {entry : EntryId} {message : String} :
    Leads (.acquiring entry) (.finished (.crashed message))
  | waited {entry : EntryId} {reader next : Reader} : Leads (.waiting entry reader) (.waiting entry next)
  | served {entry : EntryId} {reader : Reader} {content : String} :
    Leads (.waiting entry reader) (.finished (.fetched (.cached content)))
  | gaveUp {entry : EntryId} {reader : Reader} {error : TimedOut} :
    Leads (.waiting entry reader) (.finished (.failed (.timedOut error)))
  | committed {entry : EntryId} {content : String} :
    Leads (.committing entry content) (.finished (.fetched (.produced content)))
  | broken {entry : EntryId} {content message : String} :
    Leads (.committing entry content) (.finished (.crashed message))
  | released {entry : EntryId} {ending : Ending} : Leads (.releasing entry ending) (.finished ending)

/-- A fetch goes on, or its producer ends. -/
inductive Follows : Phase → Phase → Prop where
  | leads {phase next : Phase} (leads : phase.Leads next) : Follows phase next
  | produced {entry : EntryId} {content : String} : Follows (.producing entry) (.committing entry content)
  | failed {entry : EntryId} {error : String} :
    Follows (.producing entry) (.releasing entry (.failed (.producer error)))
  | died {entry : EntryId} {message : String} :
    Follows (.producing entry) (.releasing entry (.crashed message))

/-- Every step of a fetch leads to one of these phases. -/
theorem Leads.of_step (fetch : Fetch) (phase : Phase) (moment : Moment) (cache : Cache) :
    phase.Leads (fetch.step phase moment cache).1 := by
  cases phase with
  | looking lookup =>
      simp only [Fetch.step, Fetch.afterLookup]
      split
      · exact .handed
      · exact .missed
      · exact .looked
  | acquiring entry =>
      simp only [Fetch.step, Fetch.acquire]
      split
      · exact .refused
      · split
        · exact .granted
        · exact .denied
  | waiting entry reader =>
      simp only [Fetch.step, Fetch.afterLook]
      split
      · exact .served
      · exact .gaveUp
      · exact .waited
  | producing entry => exact .rests
  | committing entry content =>
      simp only [Fetch.step, Fetch.commit]
      split
      · exact .committed
      · exact .broken
  | releasing entry ending => exact .released
  | finished ending => exact .rests

/-- The signal that the gate has opened keeps a fetch in its wait. -/
theorem Leads.of_notify (phase : Phase) : phase.Leads (Fetch.notify phase) := by
  cases phase with
  | waiting entry reader => exact .waited
  | _ => exact .rests

/-- The end of its time to wait keeps a fetch in its wait. -/
theorem Leads.of_expire (phase : Phase) : phase.Leads (Fetch.expire phase) := by
  cases phase with
  | waiting entry reader => exact .waited
  | _ => exact .rests

/-- The end of its producer sends a fetch to its commit or its release. -/
theorem Follows.of_production (fetch : Fetch) (production : Production) (elapsed : Duration)
    (phase : Phase) : phase.Follows (fetch.afterProduction production elapsed phase).1 := by
  cases phase with
  | producing entry =>
      cases production with
      | content text => exact .produced
      | failure error => exact .failed
      | crash message => exact .died
  | _ => exact .leads .rests

end SingleFlight.Fetch.Phase
