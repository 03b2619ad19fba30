import Outline.Mismatch
import Outline.Toml.Value

/-!
# Settings before they are typed

A setting is a scalar, an array or a table. It remembers the file it was written in, if
any, so that messages can name it.

- `Setting.ofToml` — the setting that a TOML value stands for
-/

namespace Outline

/-- A setting without others in it. -/
inductive Scalar where
  /-- No value at all. -/
  | absent
  | boolean (value : Bool)
  | integer (value : Int)
  | float (value : Float)
  | string (text : String)

/-- A setting of any kind, with the file it comes from. -/
inductive Setting where
  | scalar (value : Scalar) (file : Option String)
  | array (items : List Setting) (file : Option String)
  | table (fields : List (String × Setting)) (file : Option String)

namespace Setting

/-- No value, from nowhere. -/
def absent : Setting := .scalar .absent none

/-- A table without fields, from nowhere. -/
def empty : Setting := .table [] none

/-- The file a setting comes from. -/
def file : Setting → Option String
  | .scalar _ file => file
  | .array _ file => file
  | .table _ file => file

/-- What a message about a setting says was found. -/
def found : Setting → Found
  | .scalar .absent _ => .unit
  | .scalar (.boolean value) _ => .boolean value
  | .scalar (.integer value) _ => .integer value
  | .scalar (.float value) _ => .float (Number.pointedText value)
  | .scalar (.string text) _ => .string text
  | .array _ _ => .sequence
  | .table _ _ => .map

mutual
/-- The setting that a TOML value in a file stands for. Dates and times are taken as
    text. -/
def ofToml (file : Option String) : Toml.Value → Setting
  | .string text => .scalar (.string text) file
  | .integer value => .scalar (.integer value.toInt) file
  | .float value => .scalar (.float value) file
  | .boolean value => .scalar (.boolean value) file
  | .datetime value => .scalar (.string value.text) file
  | .array items => .array (itemsOfToml file items) file
  | .table fields => .table (fieldsOfToml file fields) file

/-- The settings that the items of a TOML array stand for. -/
def itemsOfToml (file : Option String) : List Toml.Value → List Setting
  | [] => []
  | item :: rest => ofToml file item :: itemsOfToml file rest

/-- The settings that the fields of a TOML table stand for. -/
def fieldsOfToml (file : Option String) : List (String × Toml.Value) → List (String × Setting)
  | [] => []
  | (key, value) :: rest => (key, ofToml file value) :: fieldsOfToml file rest
end

end Setting

end Outline
