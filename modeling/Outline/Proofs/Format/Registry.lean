import Outline.Format.Registry
import Outline.Proofs.Text.Utf8

/-!
# Registries over whole runs

A registry is filled by one call after the other, and a formatter may take the place of an
earlier one of its name, also of a built-in one. Whatever the calls were, the registry holds
the latest formatter of each name, in ascending order of the names.

- `Registry.get?_insert`, `Registry.Ordered.insert` — what one call does
- `Registry.get?_registerEach`, `Registry.ordered_registerEach` — what a run of calls does
- `Registry.after_registrations` — what a registry answers behind every run
-/

namespace Outline.Registry

/-! ## §1 One call -/

/-- Behind a call its name leads to its formatter, and other names lead where they led. -/
theorem find?_insert (formatter : Formatter) (stored : List Formatter) (name : String) :
    (insert formatter stored).find? (·.name = name) =
      if formatter.name = name then some formatter else stored.find? (·.name = name) := by
  induction stored with
  | nil =>
    by_cases hName : formatter.name = name <;> simp [insert, hName]
  | cons first rest ih =>
    by_cases hName : formatter.name = name
    · subst hName
      rw [insert]
      -- the formatter comes first, or its name is not the first one
      split
      · simp
      · rename_i hFirst
        split
        · simp
        · simp [Ne.symm hFirst, ih]
    · rw [insert, if_neg hName]
      split
      · rename_i hFirst
        simp [hName, ← hFirst]
      · split
        · simp [hName]
        · rw [List.find?_cons, List.find?_cons, ih, if_neg hName]

theorem get?_register (formatter : Formatter) (registry : Registry) (name : String) :
    (registry.register formatter).value.2.get? name =
      if formatter.name = name then some formatter else registry.get? name :=
  find?_insert formatter registry.formatters name

/-- Every name comes before the names behind it. -/
def Ordered (stored : List Formatter) : Prop := stored.Pairwise (·.name < ·.name)

theorem mem_insert {formatter other : Formatter} {stored : List Formatter}
    (h : other ∈ insert formatter stored) : other = formatter ∨ other ∈ stored := by
  induction stored with
  | nil => exact .inl (List.mem_singleton.mp h)
  | cons first rest ih =>
    rw [insert] at h
    split at h
    · rcases List.mem_cons.mp h with rfl | h
      · exact .inl rfl
      · exact .inr (List.mem_cons_of_mem _ h)
    · split at h
      · exact List.mem_cons.mp h
      · rcases List.mem_cons.mp h with rfl | h
        · exact .inr (List.mem_cons_self ..)
        · exact (ih h).imp_right (List.mem_cons_of_mem _)

theorem Ordered.insert {stored : List Formatter} (h : Ordered stored) (formatter : Formatter) :
    Ordered (insert formatter stored) := by
  induction stored with
  | nil => exact List.pairwise_singleton ..
  | cons first rest ih =>
    obtain ⟨hFirst, hRest⟩ := List.pairwise_cons.mp h
    rw [Registry.insert]
    split
    · -- a formatter that takes the place of another one has its name
      rename_i hSame
      apply List.pairwise_cons.mpr
      rw [hSame]
      exact ⟨hFirst, hRest⟩
    · rename_i hOther
      split
      · rename_i hBefore
        apply List.pairwise_cons.mpr
        refine ⟨?_, h⟩
        intro other hMem
        rcases List.mem_cons.mp hMem with rfl | hMem
        · exact hBefore
        · exact String.lt_trans hBefore (hFirst other hMem)
      · rename_i hNotBefore
        have hAfter : first.name < formatter.name := by
          apply String.not_le.mp
          intro hLe
          exact hOther (String.le_antisymm hLe (String.not_lt.mp hNotBefore))
        apply List.pairwise_cons.mpr
        refine ⟨?_, ih hRest⟩
        intro other hMem
        rcases mem_insert hMem with rfl | hMem
        · exact hAfter
        · exact hFirst other hMem

/-- Among formatters in order each one is found under its own name. -/
theorem Ordered.find?_eq {stored : List Formatter} (h : Ordered stored) {formatter : Formatter}
    (hMem : formatter ∈ stored) : stored.find? (·.name = formatter.name) = some formatter := by
  induction stored with
  | nil => cases hMem
  | cons first rest ih =>
    obtain ⟨hFirst, hRest⟩ := List.pairwise_cons.mp h
    rcases List.mem_cons.mp hMem with rfl | hMem
    · simp
    · have hNe := String.ne_of_lt (hFirst formatter hMem)
      rw [List.find?_cons, decide_eq_false hNe]
      exact ih hRest hMem

/-! ## §2 Runs -/

/-- A run is its first call, and the run of the others behind it. -/
theorem registerEach_cons (formatter : Formatter) (calls : List Formatter) (registry : Registry) :
    (registerEach (formatter :: calls) registry).value =
      (registerEach calls (register formatter registry).value.2).value := by
  -- the notices that came before do not matter for the registry
  have each : ∀ first second : Logged Registry, first.value = second.value →
      (calls.foldl (fun logged formatter => logged.andThen fun registry =>
        (register formatter registry).map (·.2)) first).value =
      (calls.foldl (fun logged formatter => logged.andThen fun registry =>
        (register formatter registry).map (·.2)) second).value := by
    induction calls with
    | nil => exact fun _ _ h => h
    | cons next rest ih =>
      intro first second h
      apply ih
      simp only [Logged.andThen, Logged.after, h]
  exact each _ _ rfl

theorem registerEach_append (calls more : List Formatter) (registry : Registry) :
    (registerEach (calls ++ more) registry).value =
      (registerEach more (registerEach calls registry).value).value := by
  induction calls generalizing registry with
  | nil => rfl
  | cons first rest ih => rw [List.cons_append, registerEach_cons, registerEach_cons, ih]

theorem ordered_registerEach {registry : Registry} (h : Ordered registry.formatters)
    (calls : List Formatter) : Ordered (registerEach calls registry).value.formatters := by
  induction calls generalizing registry with
  | nil => exact h
  | cons first rest ih =>
    rw [registerEach_cons]
    exact ih (h.insert first)

/-- Behind a run a name leads to the latest formatter of the run that has it. -/
theorem get?_registerEach (calls : List Formatter) (registry : Registry) (name : String) :
    (registerEach calls registry).value.get? name =
      (calls.reverse.find? (·.name = name)).or (registry.get? name) := by
  induction calls generalizing registry with
  | nil => rfl
  | cons first rest ih =>
    rw [registerEach_cons, ih, get?_register, List.reverse_cons, List.find?_append, Option.or_assoc]
    by_cases hName : first.name = name <;> simp [hName]

/-! ## §3 Registries behind runs -/

/-- How a registry comes about: without formats, or with the built-in ones. -/
inductive Origin where
  | empty
  | builtIn (options : DumpOptions)

namespace Origin

/-- The registry before the first call. -/
def registry : Origin → Registry
  | empty => {}
  | builtIn options => (withOptions options).value

/-- What is registered before the first call. -/
def formatters : Origin → List Formatter
  | empty => []
  | builtIn options => [.dump options, .treeviz, .json]

/-- The built-in formats are registered like all others. -/
theorem registry_eq (origin : Origin) :
    origin.registry = (registerEach origin.formatters {}).value := by
  cases origin <;> rfl

end Origin

/-- The latest of some formatters that has a name. -/
def latest? (registered : List Formatter) (name : String) : Option Formatter :=
  registered.reverse.find? (·.name = name)

theorem latest?_isSome {registered : List Formatter} {name : String} :
    (latest? registered name).isSome ↔ ∃ formatter ∈ registered, formatter.name = name := by
  simp [latest?, List.find?_isSome]

/-- A registry answers for just the names it lists. -/
theorem mem_names_iff (registry : Registry) (name : String) :
    name ∈ registry.names ↔ (registry.get? name).isSome := by
  simp [names, get?, List.find?_isSome]

/-- **Registries over whole runs.** Behind any run of calls on a new registry, with or without
    the built-in formats, every formatter is found under its own name. The names are those ever
    registered, and their bytes are strictly ascending; the formatters come in the same order. A
    name leads to the latest formatter registered under it, whose text is the text of every tree,
    or else is not found. One more call returns what its name led to, and changes nothing for
    other names. -/
theorem after_registrations (origin : Origin) (calls : List Formatter) :
    let registered := origin.formatters ++ calls
    let registry := (registerEach calls origin.registry).value
    (∀ formatter ∈ registry.formatters, registry.get? formatter.name = some formatter) ∧
    (registry.names.map Writer.bytesOf).Pairwise (· < ·) ∧ registry.names.Nodup ∧
    (∀ name, name ∈ registry.names ↔ ∃ formatter ∈ registered, formatter.name = name) ∧
    registry.formatters.map (·.name) = registry.names ∧
    (∀ name, registry.get? name = latest? registered name ∧
      (registry.has name = true ↔ ∃ formatter ∈ registered, formatter.name = name)) ∧
    (∀ formatter,
      let call := (registry.register formatter).value
      call.1 = registry.get? formatter.name ∧
      call.2 = (registerEach (calls ++ [formatter]) origin.registry).value ∧
      call.2.get? formatter.name = some formatter ∧
      ∀ name, name ≠ formatter.name → call.2.get? name = registry.get? name) ∧
    ∀ root name,
      registry.serialize root name = (match latest? registered name with
        | some formatter => formatter.serialize root
        | none => .quiet (.error (.notFound name))) ∧
      (latest? registered name = none ↔ ∀ formatter ∈ registered, formatter.name ≠ name) := by
  intro registered registry
  have hRegistry : registry = (registerEach registered {}).value := by
    rw [registerEach_append, ← origin.registry_eq]
  have hOrdered : Ordered registry.formatters := by
    rw [hRegistry]
    exact ordered_registerEach List.Pairwise.nil registered
  have hGet (name : String) : registry.get? name = latest? registered name := by
    rw [hRegistry, get?_registerEach]
    exact Option.or_none
  have hNone (name : String) : latest? registered name = none ↔
      ∀ formatter ∈ registered, formatter.name ≠ name := by
    simp [latest?]
  have hNames : registry.names.Pairwise (· < ·) := List.pairwise_map.mpr hOrdered
  refine ⟨fun _ hMem => hOrdered.find?_eq hMem, ?_, ?_, ?_, rfl, ?_, ?_, ?_⟩
  · exact List.pairwise_map.mpr (hNames.imp Text.bytesOf_lt)
  · exact hNames.imp String.ne_of_lt
  · intro name
    rw [mem_names_iff, hGet, latest?_isSome]
  · intro name
    refine ⟨hGet name, ?_⟩
    rw [has, hGet, latest?_isSome]
  · intro formatter call
    refine ⟨rfl, ?_, ?_, ?_⟩
    · rw [registerEach_append, registerEach_cons]
      rfl
    · exact (get?_register formatter registry formatter.name).trans (if_pos rfl)
    · intro name hName
      exact (get?_register formatter registry name).trans (if_neg (Ne.symm hName))
  · intro root name
    refine ⟨?_, hNone name⟩
    cases hLatest : latest? registered name <;> simp [serialize, hGet, hLatest]

end Outline.Registry
