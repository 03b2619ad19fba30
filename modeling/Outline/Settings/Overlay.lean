import Outline.Settings.Key
import Outline.Settings.Setting

/-!
# Settings laid over others

A setting that is laid over another one replaces it, except that tables are merged field
by field. On the way to its place, whatever is not a table or an array where one is needed
gives way to a new one.

- `Setting.overlay` — one setting over another
- `Setting.put` — a setting in the place that a key leads to
-/

namespace Outline.Setting

/-! ## §1 Fields and items -/

/-- The field of a table. -/
def field? (name : String) : Setting → Option Setting
  | .table fields _ => fields.lookup name
  | _ => none

/-- Fields with another value for one of them, or with a further one. -/
def setField (name : String) (value : Setting) :
    List (String × Setting) → List (String × Setting)
  | [] => [(name, value)]
  | (other, old) :: rest =>
    if other = name then (name, value) :: rest else (other, old) :: setField name value rest

/-- A field that has been set has its new value. -/
@[simp]
theorem lookup_setField (name : String) (value : Setting) (fields : List (String × Setting)) :
    (setField name value fields).lookup name = some value := by
  induction fields with
  | nil => simp [setField]
  | cons field rest ih =>
    obtain ⟨other, old⟩ := field
    by_cases h : other = name
    · subst h
      simp [setField]
    · have hne : (name == other) = false := by simpa using Ne.symm h
      simp [setField, h, List.lookup_cons, hne, ih]

/-- Other fields keep theirs. -/
theorem lookup_setField_ne {name other : String} (h : other ≠ name) (value : Setting)
    (fields : List (String × Setting)) :
    (setField name value fields).lookup other = fields.lookup other := by
  induction fields with
  | nil =>
    have hne : (other == name) = false := by simpa using h
    simp [setField, List.lookup_cons, hne]
  | cons field rest ih =>
    obtain ⟨first, old⟩ := field
    by_cases hf : first = name
    · subst hf
      have hne : (other == first) = false := by simpa using h
      simp [setField, List.lookup_cons, hne]
    · simp only [setField, hf, if_false, List.lookup_cons, ih]

/-- The setting with a value for one of its fields. What is not a table gives way to a new
    one. -/
def withField (below : Setting) (name : String) (value : Setting) : Setting :=
  match below with
  | .table fields file => .table (setField name value fields) file
  | _ => .table [(name, value)] none

/-- The field with the value is there afterwards, whatever was there before. -/
@[simp]
theorem field?_withField (below : Setting) (name : String) (value : Setting) :
    (below.withField name value).field? name = some value := by
  cases below with
  | table fields file => exact lookup_setField name value fields
  | scalar _ _ => simp [withField, field?]
  | array _ _ => simp [withField, field?]

/-- The items of an array. -/
def items : Setting → List Setting
  | .array items _ => items
  | _ => []

/-- Items with absent ones added, so that there is one at an index, and its position. What
    comes before the first item is added in front. -/
def reach (index : Int) (items : List Setting) : List Setting × Nat :=
  let position := if index < 0 then items.length + index else index
  if position < 0 then (List.replicate (-position).toNat absent ++ items, 0)
  else
    let position := position.toNat
    (items ++ List.replicate (position + 1 - items.length) absent, position)

/-- The setting with a change to one of its items. What is not an array gives way to a new
    one. -/
def changeItem (index : Int) (change : Setting → Setting) (setting : Setting) : Setting :=
  let (items, position) := reach index setting.items
  let file := match setting with
    | .array _ file => file
    | _ => none
  .array (items.modify position change) file

/-! ## §2 Overlay -/

mutual
/-- The setting that results from laying one over another. -/
def overlay (below : Setting) : Setting → Setting
  | .table fields _ => overlayFields below fields
  | .array items file => .array items file
  | .scalar value file => .scalar value file

/-- The setting that results from laying fields over it, one after the other. -/
def overlayFields (below : Setting) : List (String × Setting) → Setting
  | [] => below
  | (name, value) :: rest =>
    let name := name.toLower
    -- a table over nothing is merged into an empty one, so that it loses its file
    overlayFields (below.withField name (overlay ((below.field? name).getD empty) value)) rest
end

/-- Puts a setting in the place that the parts of a key lead to. -/
def put (value : Setting) : KeyPart → List KeyPart → Setting → Setting
  | .field name, [], below =>
    below.withField name (overlay ((below.field? name).getD empty) value)
  -- items are replaced, never merged
  | .item index, [], below => below.changeItem index fun _ => value
  | .field name, next :: others, below =>
    below.withField name (put value next others ((below.field? name).getD absent))
  | .item index, next :: others, below => below.changeItem index (put value next others)

/-- Puts a setting in the place that a key leads to. -/
def putAt (below : Setting) (key : Key) (value : Setting) : Setting :=
  put value key.first key.others below

end Outline.Setting
