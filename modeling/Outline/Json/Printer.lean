import Outline.Record.Basic

/-!
# Writing descriptions as JSON

A record is written as an object over several lines, two spaces per level. Its fields come
in the order kind, name, value, children; absent fields and empty children are left out.
In strings only quotes, backslashes and the control characters below the space are escaped.
-/

namespace Outline.Json

/-! ## §1 Strings -/

/-- The four hexadecimal digits of a code point below 65536. -/
def fourHex (n : Nat) : List Char :=
  [n / 4096 % 16, n / 256 % 16, n / 16 % 16, n % 16].map Nat.digitChar

/-- How a character is written inside a string. -/
def escape (c : Char) : List Char :=
  if c == '"' then ['\\', '"']
  else if c == '\\' then ['\\', '\\']
  else if c.toNat == 0x08 then ['\\', 'b']
  else if c == '\t' then ['\\', 't']
  else if c == '\n' then ['\\', 'n']
  else if c.toNat == 0x0C then ['\\', 'f']
  else if c == '\r' then ['\\', 'r']
  else if c.toNat < 0x20 then '\\' :: 'u' :: fourHex c.toNat
  else [c]

/-- A text as a string. -/
def string (text : String) : List Char :=
  '"' :: (text.toList.flatMap escape ++ ['"'])

/-! ## §2 Records -/

/-- A line break and the indentation of a level. -/
def newLine (level : Nat) : List Char := '\n' :: List.replicate (2 * level) ' '

/-- A field name with what separates it from the value. -/
def key (name : String) : List Char := string name ++ [':', ' ']

/-- A value of an entry. -/
def scalar : RecordValue → List Char
  | .int value => (toString value.toInt).toList
  | .text text => string text

/-- A field after the first one, if it is present. -/
def optional (level : Nat) (name : String) : Option (List Char) → List Char
  | none => []
  | some value => ',' :: (newLine level ++ key name ++ value)

/-- The fields of an entry, apart from the children. -/
def fields (level : Nat) (entry : Entry) : List Char :=
  newLine level ++ key "kind" ++ string entry.kind
    ++ optional level "name" (entry.name.map string)
    ++ optional level "value" (entry.value.map scalar)

mutual
/-- A record whose braces stand at a level. -/
def record (level : Nat) : Record → List Char
  | ⟨entry, children⟩ =>
    '{' :: (fields (level + 1) entry ++ childField (level + 1) children ++ newLine level ++ ['}'])

/-- The field for the children, which is left out if there are none. -/
def childField (level : Nat) : List Record → List Char
  | [] => []
  | child :: rest =>
    ',' :: (newLine level ++ key "children" ++ '[' :: (newLine (level + 1)
      ++ record (level + 1) child ++ moreChildren (level + 1) rest ++ newLine level ++ [']']))

/-- The children after the first one. -/
def moreChildren (level : Nat) : List Record → List Char
  | [] => []
  | child :: rest => ',' :: (newLine level ++ record level child ++ moreChildren level rest)
end

end Outline.Json

namespace Outline

/-- The JSON description of a record. -/
def Record.toJson (record : Record) : String := String.ofList (Json.record 0 record)

/-- The JSON description of a syntax tree. -/
def Node.toJson (node : Node) : String := (Record.ofNode node).toJson

end Outline
