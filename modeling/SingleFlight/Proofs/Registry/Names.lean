import SingleFlight.Registry

namespace SingleFlight

namespace Registry

theorem lookup_slot (own other : String) (kept : Nat) (rest : List (String × Nat)) :
    ((own, kept) :: rest).lookup other = if other = own then some kept else rest.lookup other := by
  by_cases same : other = own
  · simp [same]
  · simp [List.lookup_cons, beq_false_of_ne same, same]

/-- A name put in its place is found, and all others as before. -/
theorem lookup_insert (name other : String) (cache : Nat) (caches : List (String × Nat)) :
    (insert name cache caches).lookup other =
      if other = name then some cache else caches.lookup other := by
  induction caches with
  | nil => exact lookup_slot name other cache []
  | cons slot rest ih =>
      obtain ⟨own, kept⟩ := slot
      unfold insert
      split
      · exact lookup_slot name other cache _
      · split
        · next same =>
            obtain rfl : own = name := same
            rw [lookup_slot, lookup_slot]
            split <;> rfl
        · next apart =>
            rw [lookup_slot, lookup_slot, ih]
            by_cases asked : other = own
            · have aside : other ≠ name := fun same => apart (asked.symm.trans same)
              rw [if_pos asked, if_pos asked, if_neg aside]
            · rw [if_neg asked, if_neg asked]

/-- What is named is the store at hand, or was named before. -/
theorem mem_insert {name : String} {cache number : Nat} {caches : List (String × Nat)}
    (named : number ∈ (insert name cache caches).map Prod.snd) :
    number = cache ∨ number ∈ caches.map Prod.snd := by
  induction caches with
  | nil => exact .inl (by simpa [insert] using named)
  | cons slot rest ih =>
      unfold insert at named
      split at named
      · simpa using named
      · split at named
        · rcases List.mem_cons.mp named with own | later
          · exact .inl own
          · exact .inr (List.mem_cons_of_mem _ later)
        · rcases List.mem_cons.mp named with own | later
          · exact .inr (own ▸ List.mem_cons_self)
          · exact (ih later).imp_right (List.mem_cons_of_mem _)

/-- A registry of some stores has a default once it has a name. -/
structure Orderly (registry : Registry Nat) (count : Nat) : Prop where
  known : ∀ number ∈ registry.targets, number < count
  blank : registry.defaultName = none → registry.caches = []
  named : ∀ name, registry.defaultName = some name → (registry.strategy name).isSome = true

section
variable {registry : Registry Nat} {count : Nat}

/-- A registration keeps a registry orderly. -/
theorem Orderly.register (orderly : registry.Orderly count) (name : String) {store : Nat}
    (known : store < count) : (registry.register name store).2.Orderly count where
  known number listed := by
    rcases mem_insert listed with rfl | before
    · exact known
    · exact orderly.known number before
  blank none := by
    cases first : registry.defaultName <;> simp [Registry.register, first] at none
  named asked default := by
    rw [strategy, Registry.register, lookup_insert]
    split
    · rfl
    · next apart =>
        apply orderly.named
        cases first : registry.defaultName with
        | none => exact absurd (by simpa [Registry.register, first] using default.symm) apart
        | some other => simpa [Registry.register, first] using default

/-- A change of the default keeps a registry orderly. -/
theorem Orderly.setDefault (orderly : registry.Orderly count) {name : String} {next : Registry Nat}
    (set : registry.setDefault name = .ok next) :
    next.Orderly count ∧ (next.defaultName = none ↔ registry.defaultName = none) := by
  unfold Registry.setDefault at set
  split at set
  · next there =>
      cases set
      refine ⟨⟨orderly.known, by rintro ⟨⟩, ?_⟩, ⟨by rintro ⟨⟩, ?_⟩⟩
      · rintro asked ⟨⟩
        exact there
      · intro none
        rw [strategy, orderly.blank none] at there
        cases there
  · cases set

/-- A change of the default does not turn caching on or off. -/
theorem enabled_of_setDefault {name : String} {next : Registry Nat}
    (set : registry.setDefault name = .ok next) : next.enabled = registry.enabled := by
  unfold Registry.setDefault at set
  split at set
  · cases set
    rfl
  · cases set

/-- An orderly registry fails without a name only if it has no default. -/
theorem Orderly.resolve_none (orderly : registry.Orderly count) (error : RegistryError) :
    registry.resolve none = .error error ↔ error = .empty ∧ registry.defaultName = none := by
  unfold resolve defaultStrategy
  cases default : registry.defaultName with
  | none => simp [eq_comm]
  | some name =>
      obtain ⟨cache, found⟩ := Option.isSome_iff_exists.mp (orderly.named name default)
      simp [found]

end

end Registry

end SingleFlight
