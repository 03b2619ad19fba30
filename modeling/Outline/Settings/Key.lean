import Outline.Files.Path
import Outline.Number.Digits

/-!
# Keys of settings

A key leads from the table of all settings to one of them: a name first, then names behind
dots and numbers in brackets. The case of ASCII letters does not matter.

- `Key.ofText?` — the key that a text writes
-/

namespace Outline

/-- One part of a key. -/
inductive KeyPart where
  /-- The field of a table. -/
  | field (name : String)
  /-- The item of an array; negative numbers count from its end. -/
  | item (index : Int)
deriving DecidableEq

/-- The way to a setting. -/
structure Key where
  first : KeyPart
  others : List KeyPart := []
deriving DecidableEq

namespace Key

/-- The characters of a name. Blanks belong to it. -/
def isNameChar (c : Char) : Bool := c.isAlphanum || c == ' ' || c == '_' || c == '-'

/-- The field with a name. -/
def fieldOf (name : List Char) : KeyPart := .field (String.ofList name).toLower

/-- A blank within brackets. -/
def isGap (c : Char) : Bool := c == ' ' || c == '\t'

/-- The number within brackets, with blanks around it. -/
def index? (text : List Char) : Option Int :=
  let number := ((text.dropWhile isGap).reverse.dropWhile isGap).reverse
  match number with
  | '+' :: _ => none
  | number => (Number.int64OfDecimal? number).map Int64.toInt

/-- The parts behind the first one, of which there are at most so many. -/
def parts? : Nat → List Char → Option (List KeyPart)
  | _, [] => some []
  | 0, _ => none
  | most + 1, '.' :: rest =>
    let name := rest.takeWhile isNameChar
    if name.isEmpty then none
    else (parts? most (rest.dropWhile isNameChar)).map (fieldOf name :: ·)
  | most + 1, '[' :: rest =>
    match index? (rest.takeWhile (· != ']')), rest.dropWhile (· != ']') with
    | some index, ']' :: rest => (parts? most rest).map (.item index :: ·)
    | _, _ => none
  | _, _ => none

/-- The key that a text writes. -/
def ofText? (text : String) : Option Key :=
  let chars := text.toList
  let name := chars.takeWhile isNameChar
  if name.isEmpty then none
  else (parts? chars.length (chars.dropWhile isNameChar)).map fun others =>
    ⟨fieldOf name, others⟩

/-- The key that a field of a file has: what it writes, or the field of just this name. -/
def ofField (name : String) : Key := (ofText? name).getD ⟨.field name.toLower, []⟩

/-- The key of the indentation unit. -/
def indentUnit : Key := ⟨.field "dump", [.field "indent_unit"]⟩

/-- The key of the greatest depth. -/
def maxDepth : Key := ⟨.field "dump", [.field "max_depth"]⟩

/-- The key of the output format. -/
def format : Key := ⟨.field "output", [.field "format"]⟩

end Key

end Outline
