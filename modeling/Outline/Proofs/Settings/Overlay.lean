import Mathlib.Data.List.TakeWhile
import Outline.Proofs.Toml.Keys
import Outline.Settings.Layers

/-!
# Settings laid over others, field by field

What a field holds after other fields, a file or a single setting have been laid over a table.
Files that are meant here have plain keys: each key of a file is then the name of one field.

- `Setting.field?_overlayFields` — fields laid over a table
- `Setting.fieldIn?_layOver` — a file laid over tables
- `Setting.fieldIn?_putAt` — a single setting laid over tables
-/

namespace Outline

/-! ## §1 Fields -/

/-- A key that is written without quotes, in small letters. -/
structure IsPlainKey (key : String) : Prop where
  bare : ∀ c ∈ key.toList, Toml.isBare c = true
  small : key.toLower = key

/-- A plain key leads to the field of its name, and not into another table. -/
theorem IsPlainKey.ofField {key : String} (h : IsPlainKey key) :
    Key.ofField key = ⟨.field key, []⟩ := by
  have hName : ∀ c ∈ key.toList, Key.isNameChar c = true := by
    intro c hc
    have hBare := h.bare c hc
    simp only [Toml.isBare, Bool.or_eq_true] at hBare
    rcases hBare with (hBare | hBare) | hBare <;> simp [Key.isNameChar, hBare]
  have hTake : key.toList.takeWhile Key.isNameChar = key.toList :=
    List.takeWhile_eq_self_iff.mpr hName
  have hDrop : key.toList.dropWhile Key.isNameChar = [] := List.dropWhile_eq_nil_iff.mpr hName
  simp only [Key.ofField, Key.ofText?, hTake, hDrop, Key.parts?, Key.fieldOf, String.ofList_toList,
    h.small]
  split <;> rfl

namespace Setting

/-- Other fields are as before. -/
theorem field?_withField_ne (below : Setting) {name other : String} (h : other ≠ name)
    (value : Setting) : (below.withField name value).field? other = below.field? other := by
  have hNe : (other == name) = false := beq_false_of_ne h
  cases below with
  | table fields file => exact lookup_setField_ne h value fields
  | scalar _ _ => simp [withField, field?, List.lookup_cons, hNe]
  | array _ _ => simp [withField, field?, List.lookup_cons, hNe]

/-- Fields of different names in small letters are laid over the fields of their names. -/
theorem field?_overlayFields (below : Setting) {fields : List (String × Setting)}
    (hDistinct : (fields.map (·.1)).Nodup) (hSmall : ∀ field ∈ fields, field.1.toLower = field.1)
    (name : String) :
    (overlayFields below fields).field? name =
      match fields.lookup name with
      | some value => some (overlay ((below.field? name).getD empty) value)
      | none => below.field? name := by
  induction fields generalizing below with
  | nil => rw [overlayFields]; rfl
  | cons field rest ih =>
    obtain ⟨first, value⟩ := field
    rw [List.map_cons, List.nodup_cons] at hDistinct
    rw [List.forall_mem_cons] at hSmall
    rw [overlayFields]
    simp only [hSmall.1, ih _ hDistinct.2 hSmall.2]
    by_cases hName : name = first
    · subst hName
      -- no later field has this name
      have hRest : rest.lookup name = none := by
        rw [List.lookup_eq_none_iff]
        intro other hOther
        have hNe : name ≠ other.1 := by
          intro hSame
          exact hDistinct.1 (List.mem_map.mpr ⟨other, hOther, hSame.symm⟩)
        simpa using hNe
      simp [hRest]
    · have hNe : (name == first) = false := beq_false_of_ne hName
      simp only [field?_withField_ne below hName, List.lookup_cons, hNe]

/-! ## §2 Files -/

theorem fieldsOfToml_eq (file : Option String) (fields : List (String × Toml.Value)) :
    fieldsOfToml file fields = fields.map fun field => (field.1, ofToml file field.2) := by
  induction fields with
  | nil => rfl
  | cons field rest ih => rw [fieldsOfToml, List.map_cons, ih]

theorem lookup_fieldsOfToml (file : Option String) (fields : List (String × Toml.Value))
    (name : String) :
    (fieldsOfToml file fields).lookup name = (fields.lookup name).map (ofToml file) := by
  induction fields with
  | nil => rfl
  | cons field rest ih =>
    obtain ⟨first, value⟩ := field
    rw [fieldsOfToml, List.lookup_cons, List.lookup_cons, ih]
    split <;> rfl

/-- Laying a file with plain keys over settings is laying its fields over them. -/
theorem layOver_eq_overlayFields (below : Setting) {fields : List (String × Setting)}
    (h : ∀ field ∈ fields, IsPlainKey field.1) :
    SettingsFile.layOver below fields = overlayFields below fields := by
  unfold SettingsFile.layOver
  induction fields generalizing below with
  | nil => rw [overlayFields]; rfl
  | cons field rest ih =>
    obtain ⟨name, value⟩ := field
    rw [List.forall_mem_cons] at h
    rw [List.foldl_cons, ih _ h.2, overlayFields]
    simp only [putAt, h.1.ofField, put, h.1.small]

theorem field?_overlay_ofToml (below : Setting) (file : Option String)
    {fields : List (String × Toml.Value)} (hKeyed : (Toml.Value.table fields).Keyed)
    (hPlain : ∀ field ∈ fields, IsPlainKey field.1) (name : String) :
    (overlayFields below (fieldsOfToml file fields)).field? name =
      match fields.lookup name with
      | some value => some (overlay ((below.field? name).getD empty) (ofToml file value))
      | none => below.field? name := by
  have hDistinct : ((fieldsOfToml file fields).map (·.1)).Nodup := by
    cases hKeyed with
    | simple h => cases h
    | table distinct _ => simpa [fieldsOfToml_eq, Function.comp_def] using distinct
  have hSmall : ∀ field ∈ fieldsOfToml file fields, field.1.toLower = field.1 := by
    intro field hField
    rw [fieldsOfToml_eq] at hField
    obtain ⟨old, hOld, rfl⟩ := List.mem_map.mp hField
    exact (hPlain old hOld).small
  rw [field?_overlayFields below hDistinct hSmall, lookup_fieldsOfToml]
  cases fields.lookup name <;> rfl

/-- The field of a table within the settings. -/
def fieldIn? (setting : Setting) (table name : String) : Option Setting :=
  (setting.field? table).bind (·.field? name)

end Setting

namespace Toml

/-- The field of a table within a document. -/
def fieldIn? (fields : List (String × Value)) (table name : String) : Option Value :=
  match fields.lookup table with
  | some (.table inner) => inner.lookup name
  | _ => none

end Toml

namespace Setting

/-- What a file lays over the fields of a table: its own, where it has them. -/
theorem fieldIn?_layOver (below : Setting) (file : Option String)
    {fields : List (String × Toml.Value)} (hKeyed : (Toml.Value.table fields).Keyed)
    (hPlain : ∀ field ∈ fields, IsPlainKey field.1) {table : String}
    (hTable : ∀ value, fields.lookup table = some value →
      ∃ inner, value = .table inner ∧ ∀ field ∈ inner, IsPlainKey field.1) (name : String) :
    (SettingsFile.layOver below (fieldsOfToml file fields)).fieldIn? table name =
      match Toml.fieldIn? fields table name with
      | some value => some (overlay ((below.fieldIn? table name).getD empty) (ofToml file value))
      | none => below.fieldIn? table name := by
  have hLaid : ∀ field ∈ fieldsOfToml file fields, IsPlainKey field.1 := by
    intro field hField
    rw [fieldsOfToml_eq] at hField
    obtain ⟨old, hOld, rfl⟩ := List.mem_map.mp hField
    exact hPlain old hOld
  rw [layOver_eq_overlayFields below hLaid, fieldIn?,
    field?_overlay_ofToml below file hKeyed hPlain, Toml.fieldIn?]
  cases hLookup : fields.lookup table with
  | none => rfl
  | some value =>
    obtain ⟨inner, rfl, hInner⟩ := hTable value hLookup
    have hInnerKeyed : (Toml.Value.table inner).Keyed := by
      obtain ⟨before, after, hFields, -⟩ := List.lookup_eq_some_iff.mp hLookup
      cases hKeyed with
      | simple h => cases h
      | table _ each => exact each (table, .table inner) (by simp [hFields])
    -- where there was no table, its fields are laid over an empty one
    have hBelow : ((below.field? table).getD empty).field? name = below.fieldIn? table name := by
      rw [fieldIn?]
      cases below.field? table <;> rfl
    simp only [Option.bind_some, ofToml, overlay]
    rw [field?_overlay_ofToml _ file hInnerKeyed hInner, hBelow]

/-! ## §3 Single settings -/

/-- A single setting is laid over its own field and no other. -/
theorem fieldIn?_putAt (below : Setting) (table name : String) (value : Scalar)
    (file : Option String) (table' name' : String) :
    (below.putAt ⟨.field table, [.field name]⟩ (.scalar value file)).fieldIn? table' name' =
      if table' = table ∧ name' = name then some (.scalar value file)
      else below.fieldIn? table' name' := by
  simp only [putAt, put, overlay, fieldIn?]
  by_cases hTable : table' = table
  · subst hTable
    rw [field?_withField, Option.bind_some]
    by_cases hName : name' = name
    · subst hName
      simp
    · rw [field?_withField_ne _ hName, if_neg (fun h => hName h.2)]
      cases below.field? table' <;> rfl
  · rw [field?_withField_ne _ hTable, if_neg (fun h => hTable h.1)]

end Setting

end Outline
