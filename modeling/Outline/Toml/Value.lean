import Outline.Toml.Datetime

/-!
# TOML values
-/

namespace Outline.Toml

/-- A value of a TOML document. -/
inductive Value where
  | string (text : String)
  | integer (value : Int64)
  | float (value : Float)
  | boolean (value : Bool)
  | datetime (value : Datetime)
  | array (items : List Value)
  /-- Fields in the order in which they were written. -/
  | table (fields : List (String × Value))
deriving Inhabited

end Outline.Toml
