import Outline.Toml.Reader

/-!
# Keys are given once

A document that defines a key twice is refused, be it by a statement, a header or in braces.
So in every table of a document that is read, each key stands for one value.

- `Value.Keyed`, `Item.Keyed` — in all tables within, keys differ
- `within?_keyed` — changing a table somewhere in a document
- `valueWithin?_keyed` — values that are read
- `document?_keyed` — whole documents
-/

namespace Outline.Toml

/-! ## §1 Tables with different keys -/

/-- Values that hold no other values. -/
def Value.isSimple : Value → Bool
  | .array _ | .table _ => false
  | _ => true

/-- In all tables of a value, keys differ. -/
inductive Value.Keyed : Value → Prop where
  | simple {value : Value} (simple : value.isSimple = true) : Keyed value
  | array {items : List Value} (each : ∀ item ∈ items, Keyed item) : Keyed (.array items)
  | table {fields : List (String × Value)} (distinct : (fields.map (·.1)).Nodup)
      (each : ∀ field ∈ fields, Keyed field.2) : Keyed (.table fields)

/-- In all tables under construction, keys differ. -/
inductive Item.Keyed : Item → Prop where
  | value {value : Value} (keyed : value.Keyed) : Keyed (.value value)
  | table {standing : Standing} {fields : Fields} (distinct : (fields.map (·.1)).Nodup)
      (each : ∀ field ∈ fields, Keyed field.2) : Keyed (.table standing fields)
  | tables {items : List Fields} (distinct : ∀ fields ∈ items, (fields.map (·.1)).Nodup)
      (each : ∀ fields ∈ items, ∀ field ∈ fields, Keyed field.2) : Keyed (.tables items)

/-- Fields with different keys, also in all tables within. -/
structure Fields.Keyed (fields : Fields) : Prop where
  distinct : (fields.map (·.1)).Nodup
  each : ∀ field ∈ fields, field.2.Keyed

namespace Fields

theorem keyed_nil : Keyed [] := ⟨List.nodup_nil, by simp⟩

variable {fields : Fields} {key : String} {item : Item}

theorem Keyed.of_lookup (h : Keyed fields) (hKey : fields.lookup key = some item) : item.Keyed := by
  obtain ⟨before, after, hFields, -⟩ := List.lookup_eq_some_iff.mp hKey
  exact h.each (key, item) (by simp [hFields])

/-- A new key may be added. -/
theorem Keyed.add (h : Keyed fields) (hKey : fields.lookup key = none) (hItem : item.Keyed) :
    Keyed (fields ++ [(key, item)]) := by
  constructor
  · rw [List.map_append, List.nodup_append]
    refine ⟨h.distinct, by simp, ?_⟩
    intro other hOther last hLast
    obtain ⟨field, hField, rfl⟩ := List.mem_map.mp hOther
    obtain rfl : last = key := by simpa using hLast
    have hNe := List.lookup_eq_none_iff.mp hKey field hField
    intro hSame
    simp [hSame] at hNe
  · intro field hField
    rcases List.mem_append.mp hField with hField | hField
    · exact h.each field hField
    · obtain rfl := List.mem_singleton.mp hField
      exact hItem

/-- What stands under a key may be replaced. -/
theorem Keyed.replace (h : Keyed fields) (hItem : item.Keyed) :
    Keyed (replace key item fields) := by
  constructor
  · have hKeys : (Toml.replace key item fields).map (·.1) = fields.map (·.1) := by
      simp [Toml.replace, Function.comp_def]
    rw [hKeys]
    exact h.distinct
  · intro field hField
    obtain ⟨⟨other, old⟩, hOld, rfl⟩ := List.mem_map.mp hField
    show (if other = key then item else old).Keyed
    split
    · exact hItem
    · exact h.each (other, old) hOld

end Fields

/-! ## §2 Statements -/

/-- A change to fields that keeps keys apart. -/
def KeepsKeys (change : Fields → Option Fields) : Prop :=
  ∀ fields changed, Fields.Keyed fields → change fields = some changed → Fields.Keyed changed

/-- A change somewhere in a document keeps keys apart everywhere if it does so in its place. -/
theorem within?_keyed {byDots : Bool} {change : Standing → Fields → Option Fields}
    (hChange : ∀ standing, KeepsKeys (change standing)) (path : List String) (standing : Standing) :
    KeepsKeys (within? byDots change path standing) := by
  induction path generalizing standing with
  | nil =>
    intro fields changed hFields h
    rw [within?] at h
    exact hChange standing fields changed hFields h
  | cons key path ih =>
    intro fields changed hFields h
    rw [within?] at h
    split at h
    · -- a table that is not there is added
      rename_i hKey
      generalize (if byDots = true then Standing.dotted else .implied) = new at h
      simp only at h
      split at h
      · rename_i inner hInner
        cases h
        have hKeyed := ih _ [] inner Fields.keyed_nil hInner
        exact hFields.add hKey (.table hKeyed.distinct hKeyed.each)
      · cases h
    · cases h
    · rename_i standing' inner hKey
      split at h
      · cases h
      · split at h
        · rename_i changedInner hInner
          cases h
          obtain _ | ⟨hDistinct, hEach⟩ := hFields.of_lookup hKey
          have hKeyed := ih _ inner changedInner ⟨hDistinct, hEach⟩ hInner
          exact hFields.replace (.table hKeyed.distinct hKeyed.each)
        · cases h
    · rename_i items hKey
      split at h
      · cases h
      · rename_i last hLast
        split at h
        · rename_i inner hInner
          cases h
          obtain _ | _ | ⟨hDistinct, hEach⟩ := hFields.of_lookup hKey
          have hMem := List.mem_of_getLast? hLast
          have hKeyed := ih _ last inner ⟨hDistinct last hMem, hEach last hMem⟩ hInner
          -- the last table has changed, and the others are as before
          apply hFields.replace
          apply Item.Keyed.tables
          · intro fields hFields
            rcases List.mem_append.mp hFields with hFields | hFields
            · exact hDistinct fields (List.dropLast_subset items hFields)
            · obtain rfl := List.mem_singleton.mp hFields
              exact hKeyed.distinct
          · intro fields hFields
            rcases List.mem_append.mp hFields with hFields | hFields
            · exact hEach fields (List.dropLast_subset items hFields)
            · obtain rfl := List.mem_singleton.mp hFields
              exact hKeyed.each
        · cases h

theorem add?_keyed {byDots : Bool} {key : String} {value : Value} (hValue : value.Keyed)
    (standing : Standing) : KeepsKeys (add? byDots key value standing) := by
  intro fields changed hFields h
  rw [add?] at h
  split at h
  · rename_i hFree
    cases h
    exact hFields.add (Option.isNone_iff_eq_none.mp hFree.2) (.value hValue)
  · cases h

theorem define?_keyed {path : List String} {key : String} {value : Value} (hValue : value.Keyed) :
    KeepsKeys (define? path key value) :=
  within?_keyed (add?_keyed hValue) path .explicit

theorem openTable?_keyed (key : String) (standing : Standing) :
    KeepsKeys (openTable? key standing) := by
  intro fields changed hFields h
  rw [openTable?] at h
  split at h
  · rename_i hKey
    cases h
    exact hFields.add hKey (.table List.nodup_nil (by simp))
  · rename_i inner hKey
    cases h
    obtain _ | ⟨hDistinct, hEach⟩ := hFields.of_lookup hKey
    exact hFields.replace (.table hDistinct hEach)
  · cases h

theorem openItem?_keyed (key : String) (standing : Standing) :
    KeepsKeys (openItem? key standing) := by
  intro fields changed hFields h
  rw [openItem?] at h
  split at h
  · rename_i hKey
    cases h
    exact hFields.add hKey (.tables (by simp) (by simp))
  · rename_i items hKey
    cases h
    obtain _ | _ | ⟨hDistinct, hEach⟩ := hFields.of_lookup hKey
    refine hFields.replace (.tables ?_ ?_)
    · intro fields hFields
      rcases List.mem_append.mp hFields with hFields | hFields
      · exact hDistinct fields hFields
      · obtain rfl := List.mem_singleton.mp hFields
        exact List.nodup_nil
    · intro fields hFields
      rcases List.mem_append.mp hFields with hFields | hFields
      · exact hEach fields hFields
      · obtain rfl := List.mem_singleton.mp hFields
        simp
  · cases h

/-! ## §3 Values -/

theorem fieldValues_eq (fields : Fields) :
    fieldValues fields = fields.map fun field => (field.1, field.2.toValue) := by
  induction fields with
  | nil => rfl
  | cons field rest ih => rw [fieldValues, List.map_cons, ih]

theorem tableValues_eq (items : List Fields) :
    tableValues items = items.map fun fields => .table (fieldValues fields) := by
  induction items with
  | nil => rfl
  | cons fields rest ih => rw [tableValues, List.map_cons, ih]

theorem keyed_fieldValues {fields : Fields} (hDistinct : (fields.map (·.1)).Nodup)
    (hEach : ∀ field ∈ fields, field.2.toValue.Keyed) :
    (Value.table (fieldValues fields)).Keyed := by
  rw [fieldValues_eq]
  apply Value.Keyed.table
  · simpa [Function.comp_def] using hDistinct
  · intro field hField
    obtain ⟨old, hOld, rfl⟩ := List.mem_map.mp hField
    exact hEach old hOld

/-- The value of an item has the keys of the item. -/
theorem Item.Keyed.toValue {item : Item} (h : item.Keyed) : item.toValue.Keyed := by
  induction h with
  | value keyed => rw [Item.toValue]; exact keyed
  | table distinct _ ih => rw [Item.toValue]; exact keyed_fieldValues distinct ih
  | tables distinct _ ih =>
    rw [Item.toValue, tableValues_eq]
    apply Value.Keyed.array
    intro value hValue
    obtain ⟨fields, hFields, rfl⟩ := List.mem_map.mp hValue
    exact keyed_fieldValues (distinct fields hFields) (ih fields hFields)

theorem Fields.Keyed.toValue {fields : Fields} (h : fields.Keyed) :
    (Value.table (fieldValues fields)).Keyed :=
  keyed_fieldValues h.distinct fun field hField => (h.each field hField).toValue

/-- Nothing but simple values is read. -/
def Simple (found : Scanned Value) : Prop :=
  ∀ value rest, found = some (value, rest) → value.isSimple = true

theorem simple_before {rest : List Char} {found : Option Value}
    (h : ∀ value, found = some value → value.isSimple = true) : Simple (before rest found) := by
  intro value left hFound
  obtain ⟨same, hSame, hPair⟩ := Option.map_eq_some_iff.mp hFound
  cases hPair
  exact h value hSame

theorem isSimple_of_integer? {base : Nat} {negative : Bool} {digits : List Char} (value : Value)
    (h : integer? base negative digits = some value) : value.isSimple = true := by
  simp only [integer?, Option.bind_eq_bind, Option.bind_eq_some_iff] at h
  obtain ⟨_, -, _, -, h⟩ := h
  cases h
  rfl

theorem isSimple_of_float? {negative : Bool} {whole fraction : List Char} {exponent : Int}
    (value : Value) (h : float? negative whole fraction exponent = some value) :
    value.isSimple = true := by
  simp only [float?] at h
  split at h
  · cases h
    rfl
  · split at h
    · cases h
    · cases h
      rfl

theorem simple_decimal? (negative : Bool) (text : List Char) : Simple (decimal? negative text) := by
  intro value rest h
  rw [decimal?] at h
  split at h
  · cases h
  · split at h
    · split at h
      · exact simple_before isSimple_of_float? value rest h
      · exact simple_before isSimple_of_float? value rest h
    · split at h
      · exact simple_before isSimple_of_float? value rest h
      · exact simple_before isSimple_of_integer? value rest h

theorem simple_inBase? (base : Nat) (text : List Char) : Simple (inBase? base text) := by
  intro value rest h
  rw [inBase?] at h
  split at h
  · exact simple_before isSimple_of_integer? value rest h
  · cases h

theorem simple_number? (text : List Char) : Simple (number? text) := by
  intro value rest h
  unfold number? at h
  split at h
  · exact simple_inBase? 16 _ value rest h
  · exact simple_inBase? 8 _ value rest h
  · exact simple_inBase? 2 _ value rest h
  · split at h
    · cases h
      rfl
    · cases h
      rfl
    · exact simple_decimal? _ _ value rest h

theorem simple_simple? (text : List Char) : Simple (simple? text) := by
  intro value rest h
  rw [simple?] at h
  split at h
  · cases h
    rfl
  · split at h
    · rename_i read hRead
      cases h
      -- the only words are those for truth values
      unfold boolean? at hRead
      split at hRead <;> cases hRead <;> rfl
    · split at h
      · cases h
        rfl
      · exact simple_number? text value rest h

/-- What is read with a number of steps has different keys in all its tables. -/
structure ReadsKeyed (fuel : Nat) : Prop where
  value : ∀ depth text found rest,
    valueWithin? fuel depth text = some (found, rest) → found.Keyed
  items : ∀ depth text found rest,
    items? fuel depth text = some (found, rest) → ∀ item ∈ found, item.Keyed
  pairs : ∀ depth fields text found rest, Fields.Keyed fields →
    pairs? fuel depth fields text = some (found, rest) → Fields.Keyed found

theorem ReadsKeyed.valueWithin? {fuel : Nat} (h : ReadsKeyed fuel) {depth : Nat}
    {text rest : List Char} {found : Value}
    (hFound : valueWithin? (fuel + 1) depth text = some (found, rest)) : found.Keyed := by
  unfold Toml.valueWithin? at hFound
  split at hFound
  · split at hFound
    · cases hFound
    · split at hFound
      · rename_i hItems
        cases hFound
        exact .array (h.items _ _ _ _ hItems)
      · cases hFound
  · split at hFound
    · cases hFound
    · split at hFound
      · cases hFound
        exact .table List.nodup_nil (by simp)
      · split at hFound
        · rename_i hPairs
          cases hFound
          exact (h.pairs _ _ _ _ _ Fields.keyed_nil hPairs).toValue
        · cases hFound
  · exact .simple (simple_simple? _ _ _ hFound)

theorem ReadsKeyed.items? {fuel : Nat} (h : ReadsKeyed fuel) {depth : Nat}
    {text rest : List Char} {found : List Value}
    (hFound : items? (fuel + 1) depth text = some (found, rest)) : ∀ item ∈ found, item.Keyed := by
  rw [Toml.items?] at hFound
  split at hFound
  · cases hFound
    simp
  · split at hFound
    · cases hFound
    · rename_i hValue
      have hFirst := h.value _ _ _ _ hValue
      split at hFound
      · cases hFound
        simpa using hFirst
      · split at hFound
        · rename_i hItems
          cases hFound
          rw [List.forall_mem_cons]
          exact ⟨hFirst, h.items _ _ _ _ hItems⟩
        · cases hFound
      · cases hFound

theorem ReadsKeyed.pairs? {fuel : Nat} (h : ReadsKeyed fuel) {depth : Nat}
    {text rest : List Char} {fields found : Fields} (hFields : fields.Keyed)
    (hFound : pairs? (fuel + 1) depth fields text = some (found, rest)) : found.Keyed := by
  rw [Toml.pairs?] at hFound
  split at hFound
  · split at hFound
    · cases hFound
    · rename_i hValue
      simp only at hFound
      split at hFound
      · cases hFound
      · rename_i hDefined
        have hKeyed := define?_keyed (h.value _ _ _ _ hValue) _ _ hFields hDefined
        split at hFound
        · cases hFound
          exact hKeyed
        · exact h.pairs _ _ _ _ _ hKeyed hFound
        · cases hFound
  · cases hFound

theorem readsKeyed (fuel : Nat) : ReadsKeyed fuel := by
  induction fuel with
  | zero =>
    constructor
    · intro depth text found rest h
      cases h
    · intro depth text found rest h
      cases h
    · intro depth fields text found rest hFields h
      cases h
  | succ fuel ih =>
    constructor
    · intro depth text found rest
      exact ih.valueWithin?
    · intro depth text found rest
      exact ih.items?
    · intro depth fields text found rest hFields
      exact ih.pairs? hFields

/-! ## §4 Documents -/

theorem Document.define?_keyed {document changed : Document} {path : List String} {value : Value}
    (hValue : value.Keyed) (hDocument : document.fields.Keyed)
    (h : document.define? path value = some changed) : changed.fields.Keyed := by
  simp only [Document.define?] at h
  split at h
  · rename_i hFields
    cases h
    exact within?_keyed (fun _ => Toml.define?_keyed hValue) _ _ _ _ hDocument hFields
  · cases h

theorem Document.enter?_keyed {document changed : Document} {path : List String}
    {change : String → Standing → Fields → Option Fields}
    (hChange : ∀ key standing, KeepsKeys (change key standing))
    (hDocument : document.fields.Keyed) (h : document.enter? path change = some changed) :
    changed.fields.Keyed := by
  simp only [Document.enter?] at h
  split at h
  · rename_i hFields
    cases h
    exact within?_keyed (hChange _) _ _ _ _ hDocument hFields
  · cases h

theorem pair?_keyed {document changed : Document} {text rest : List Char}
    (hDocument : document.fields.Keyed) (h : pair? document text = some (changed, rest)) :
    changed.fields.Keyed := by
  rw [pair?] at h
  split at h
  · split at h
    · cases h
    · rename_i hValue
      split at h
      · rename_i hDefined
        cases h
        exact Document.define?_keyed ((readsKeyed _).value _ _ _ _ hValue) hDocument hDefined
      · cases h
  · cases h

theorem header?_keyed {document changed : Document} {double : Bool} {text rest : List Char}
    (hDocument : document.fields.Keyed)
    (h : header? document double text = some (changed, rest)) : changed.fields.Keyed := by
  rw [header?] at h
  split at h
  · cases h
  · simp only at h
    split at h
    · rename_i hEntered
      cases h
      refine Document.enter?_keyed ?_ hDocument hEntered
      intro key standing
      cases double
      · exact openTable?_keyed key standing
      · exact openItem?_keyed key standing
    · cases h

/-- Statements keep keys apart. -/
theorem statements?_keyed {fuel : Nat} {document changed : Document} {text : List Char}
    (hDocument : document.fields.Keyed) (h : statements? fuel document text = some changed) :
    changed.fields.Keyed := by
  induction fuel generalizing document text with
  | zero => cases h
  | succ fuel ih =>
    rw [statements?] at h
    split at h
    · cases h
      exact hDocument
    · exact ih hDocument h
    · split at h
      · exact ih hDocument h
      · cases h
    · split at h
      · rename_i hHeader
        exact ih (header?_keyed hDocument hHeader) h
      · cases h
    · split at h
      · rename_i hHeader
        exact ih (header?_keyed hDocument hHeader) h
      · cases h
    · split at h
      · rename_i hPair
        exact ih (pair?_keyed hDocument hPair) h
      · cases h

/-- In all tables of a document that is read, keys differ. -/
theorem document?_keyed {text : String} {fields : List (String × Value)}
    (h : document? text = some fields) : (Value.table fields).Keyed := by
  obtain ⟨document, hDocument, rfl⟩ := Option.map_eq_some_iff.mp h
  exact (statements?_keyed Fields.keyed_nil hDocument).toValue

end Outline.Toml
