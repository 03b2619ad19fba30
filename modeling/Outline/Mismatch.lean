import Outline.Number.Shortest
import Outline.Text.Quoted

/-!
# Mismatches

Text that is well formed may still hold something else than a reader expects at that
place. A mismatch names what was found and what was expected.
-/

namespace Outline

/-- What a reader came upon. -/
inductive Found where
  | integer (value : Int)
  /-- An integer beyond 64 bits; the flag tells whether it is negative. -/
  | wideInteger (value : Int) (negative : Bool)
  /-- An integer that is named by its size. -/
  | longInteger (value : Int)
  /-- A float, known by its text. -/
  | float (text : String)
  | boolean (value : Bool)
  | string (text : String)
  | null
  | unit
  | sequence
  | map

namespace Found

/-- How a message names what was found. -/
def text : Found → String
  | integer value => "integer `" ++ toString value ++ "`"
  | wideInteger value negative =>
    "integer `" ++ toString value ++ "` as " ++ (if negative then "i128" else "u128")
  | longInteger value => "64-bit integer `" ++ toString value ++ "`"
  | float text => "floating point `" ++ text ++ "`"
  | boolean value => "boolean `" ++ toString value ++ "`"
  | string text => "string " ++ Text.quoted text
  | null => "null"
  | unit => "unit value"
  | sequence => "sequence"
  | map => "map"

end Found

/-- Why well-formed text does not hold what a reader expects. -/
inductive Mismatch where
  /-- Something else was expected. -/
  | invalidType (found : Found) (expected : String)
  /-- A list of fields is too short. -/
  | invalidLength (length : Nat) (expected : String)
  /-- A field without a default is absent. -/
  | missingField (name : String)
  /-- A field is given twice. -/
  | duplicateField (name : String)
  /-- A value is of none of the accepted forms. -/
  | noVariant (type : String)

namespace Mismatch

/-- The text that reports a mismatch. -/
def message : Mismatch → String
  | invalidType found expected => "invalid type: " ++ found.text ++ ", expected " ++ expected
  | invalidLength length expected =>
    "invalid length " ++ toString length ++ ", expected " ++ expected
  | missingField name => "missing field `" ++ name ++ "`"
  | duplicateField name => "duplicate field `" ++ name ++ "`"
  | noVariant type => "data did not match any variant of untagged enum " ++ type

end Mismatch

end Outline
