import Outline.Toml.Amount
import Outline.Toml.Section

/-!
# Reading TOML documents

A document is a list of statements: headers, which choose the table that follows, and keys
with values, which go into that table.

- `value?` — a value at the beginning of a text
- `document?` — the fields of a whole document
-/

namespace Outline.Toml

/-! ## §1 Values -/

/-- Splits a path of keys into its last key and those before it. -/
def splitLast : List String → List String × String
  | [] => ([], "")
  | [key] => ([], key)
  | key :: path => let (before, last) := splitLast path; (key :: before, last)

/-- A word that is a value. -/
def boolean? : List Char → Scanned Value
  | 't' :: 'r' :: 'u' :: 'e' :: rest => some (.boolean true, rest)
  | 'f' :: 'a' :: 'l' :: 's' :: 'e' :: rest => some (.boolean false, rest)
  | _ => none

/-- A value without other values in it. -/
def simple? (text : List Char) : Scanned Value :=
  match string? text with
  | some (text, rest) => some (.string text, rest)
  | none =>
    match boolean? text with
    | some read => some read
    | none =>
      -- a date begins like a number, so it is tried first
      match Datetime.scan? text with
      | some (moment, rest) => some (.datetime moment, rest)
      | none => number? text

mutual
/-- A value, with `depth` more levels of arrays and tables allowed in it. -/
def valueWithin? : Nat → Nat → List Char → Scanned Value
  | 0, _, _ => none
  | fuel + 1, depth, text =>
    match text with
    | '[' :: rest =>
      match depth with
      | 0 => none
      | depth + 1 =>
        match items? fuel depth rest with
        | some (items, rest) => some (.array items, rest)
        | none => none
    | '{' :: rest =>
      match depth with
      | 0 => none
      | depth + 1 =>
        match skipBlank rest with
        -- only an empty table may end without a pair in front of the brace
        | '}' :: rest => some (.table [], rest)
        | rest =>
          match pairs? fuel depth [] rest with
          | some (fields, rest) => some (.table (fieldValues fields), rest)
          | none => none
    | text => simple? text

/-- The items of an array with its closing bracket. A comma may stand behind the last. -/
def items? : Nat → Nat → List Char → Scanned (List Value)
  | 0, _, _ => none
  | fuel + 1, depth, text =>
    match skipLines false text with
    | ']' :: rest => some ([], rest)
    | text =>
      match valueWithin? fuel depth text with
      | none => none
      | some (value, rest) =>
        match skipLines false rest with
        | ']' :: rest => some ([value], rest)
        | ',' :: rest =>
          match items? fuel depth rest with
          | some (values, rest) => some (value :: values, rest)
          | none => none
        | _ => none

/-- The pairs of a table in braces, of which there is at least one, added to those read
    before, with the closing brace. -/
def pairs? : Nat → Nat → Fields → List Char → Scanned Fields
  | 0, _, _, _ => none
  | fuel + 1, depth, fields, text =>
    match path? text with
    | some (path, '=' :: rest) =>
      match valueWithin? fuel depth (skipBlank rest) with
      | none => none
      | some (value, rest) =>
        let (before, key) := splitLast path
        match define? before key value fields with
        | none => none
        | some fields =>
          match skipBlank rest with
          | '}' :: rest => some (fields, rest)
          | ',' :: rest => pairs? fuel depth fields rest
          | _ => none
    | _ => none
end

/-- As many steps as reading a text can take: between two of them a character is used up,
    or one step goes from a list of items to its first item. -/
def enough (text : List Char) : Nat := 2 * text.length + 2

/-- A value. -/
def value? (text : List Char) : Scanned Value := valueWithin? (enough text) (maxNesting - 1) text

/-! ## §2 Documents -/

/-- What has been read of a document. -/
structure Document where
  fields : Fields := []
  /-- The path to the table that keys go into. -/
  header : List String := []

namespace Document

/-- The document with a key and its value in the current table. -/
def define? (document : Document) (path : List String) (value : Value) : Option Document :=
  let (before, key) := splitLast path
  let change (_ : Standing) (fields : Fields) := Toml.define? before key value fields
  match within? false change document.header .explicit document.fields with
  | some fields => some { document with fields }
  | none => none

/-- The document with another current table. -/
def enter? (document : Document) (path : List String)
    (change : String → Standing → Fields → Option Fields) : Option Document :=
  let (before, key) := splitLast path
  match within? false (change key) before .explicit document.fields with
  | some fields => some { fields, header := path }
  | none => none

end Document

/-- A key with its value and the end of the line. -/
def pair? (document : Document) (text : List Char) : Scanned Document :=
  match path? text with
  | some (path, '=' :: rest) =>
    match value? (skipBlank rest) with
    | none => none
    | some (value, rest) =>
      match finishLine? rest, document.define? path value with
      | some rest, some document => some (document, rest)
      | _, _ => none
  | _ => none

/-- The closing brackets of a header. -/
def closeHeader? : Bool → List Char → Option (List Char)
  | false, ']' :: rest => some rest
  | true, ']' :: ']' :: rest => some rest
  | _, _ => none

/-- A header behind its opening brackets, with the end of the line. -/
def header? (document : Document) (double : Bool) (text : List Char) : Scanned Document :=
  match path? text with
  | none => none
  | some (path, rest) =>
    let change := if double then openItem? else openTable?
    match (closeHeader? double rest).bind finishLine?, document.enter? path change with
    | some rest, some document => some (document, rest)
    | _, _ => none

/-- The statements of a document, behind those read before. -/
def statements? : Nat → Document → List Char → Option Document
  | 0, _, _ => none
  | fuel + 1, document, text =>
    match skipBlank text with
    | [] => some document
    | '\n' :: rest => statements? fuel document rest
    | '#' :: rest =>
      match finishLine? ('#' :: rest) with
      | some rest => statements? fuel document rest
      | none => none
    | '[' :: '[' :: rest =>
      match header? document true rest with
      | some (document, rest) => statements? fuel document rest
      | none => none
    | '[' :: rest =>
      match header? document false rest with
      | some (document, rest) => statements? fuel document rest
      | none => none
    | text =>
      match pair? document text with
      | some (document, rest) => statements? fuel document rest
      | none => none

/-- The text without a byte order mark at its beginning. -/
def skipMark : List Char → List Char
  | c :: rest => if c.toNat = 0xFEFF then rest else c :: rest
  | [] => []

/-- The fields of a document, if the text is one. -/
def document? (text : String) : Option (List (String × Value)) :=
  let text := unifyLines (skipMark text.toList)
  (statements? (text.length + 1) {} text).map fun document => fieldValues document.fields

end Outline.Toml
