import Outline.Json.Skip
import Outline.Record.Draft

/-!
# Reading descriptions from JSON

The text is read in one pass, so the first problem in text order is the one reported,
whether the text is malformed there or only holds something unexpected. A record is an
object with the fields `kind`, `name`, `value` and `children` in any order, or an array of
them in this order, of which all but the first may be missing at the end. Other fields of
objects are skipped.

At most `maxOpen` arrays and objects may be open at once, those in skipped fields aside.
-/

namespace Outline.Json

/-- How many arrays and objects may be open at once. -/
def maxOpen : Nat := 127

/-! ## §1 Unexpected values -/

/-- The problem with text at which something else is expected. Words, numbers and strings
    have to be well formed before they can be unexpected. -/
def unexpected (expected : String) (text : List Char) : Problem :=
  let mismatch (found : Found) : Problem := .mismatch (.invalidType found expected)
  let wordOr (word : Except Problem (List Char)) (found : Found) : Problem :=
    match word with
    | .ok _ => mismatch found
    | .error problem => problem
  let numberOr (number : Parsed Amount) : Problem :=
    match number with
    | .ok (value, _) => mismatch value.found
    | .error problem => problem
  match text with
  | 'n' :: rest => wordOr (word ['u', 'l', 'l'] rest) .null
  | 't' :: rest => wordOr (word ['r', 'u', 'e'] rest) (.boolean true)
  | 'f' :: rest => wordOr (word ['a', 'l', 's', 'e'] rest) (.boolean false)
  | '-' :: rest => numberOr (amount true rest)
  | '"' :: rest =>
    match Json.text rest with
    | .ok (string, _) => mismatch (.string string)
    | .error problem => problem
  -- what is inside is not read any more
  | '[' :: _ => mismatch .sequence
  | '{' :: _ => mismatch .map
  | c :: rest => if c.isDigit then numberOr (amount false (c :: rest)) else .malformed
  | [] => .endOfText

/-! ## §2 Names and values -/

/-- A string. -/
def stringAt (text : List Char) : Parsed String :=
  match skipBlank text with
  | '"' :: rest => Json.text rest
  | rest => .error (unexpected "a string" rest)

/-- A string, or nothing for `null`. -/
def optionalString (text : List Char) : Parsed (Option String) :=
  match skipBlank text with
  | 'n' :: rest => (word ['u', 'l', 'l'] rest).map fun rest => (none, rest)
  | rest => (stringAt rest).map fun (string, rest) => (some string, rest)

/-- What a value in full can be. The content of arrays and objects has no use. -/
inductive Content where
  | number (value : Amount)
  | string (text : String)
  | other

/-- A field name and the colon behind it. -/
def memberKey (text : List Char) : Parsed String :=
  match skipBlank text with
  | '"' :: rest =>
    match Json.text rest with
    | .error problem => .error problem
    | .ok (name, rest) => (colon rest).map fun rest => (name, rest)
  | rest => .error (stuck rest)

mutual
/-- A value of any form, in which `room` arrays and objects may still be opened. -/
def content : Nat → Nat → List Char → Parsed Content
  | 0, _, _ => .error .malformed
  | fuel + 1, room, text =>
    match skipBlank text with
    | 'n' :: rest => (word ['u', 'l', 'l'] rest).map fun rest => (.other, rest)
    | 't' :: rest => (word ['r', 'u', 'e'] rest).map fun rest => (.other, rest)
    | 'f' :: rest => (word ['a', 'l', 's', 'e'] rest).map fun rest => (.other, rest)
    | '-' :: rest => (amount true rest).map fun (value, rest) => (.number value, rest)
    | '"' :: rest => (Json.text rest).map fun (string, rest) => (.string string, rest)
    | '[' :: rest =>
      match room with
      | 0 => .error .malformed
      | room + 1 =>
        match skipBlank rest with
        | ']' :: rest => .ok (.other, rest)
        | rest => contentItems fuel room rest
    | '{' :: rest =>
      match room with
      | 0 => .error .malformed
      | room + 1 =>
        match skipBlank rest with
        | '}' :: rest => .ok (.other, rest)
        | rest => contentMembers fuel room rest
    | c :: rest =>
      if c.isDigit then (amount false (c :: rest)).map fun (value, rest) => (.number value, rest)
      else .error .malformed
    | [] => .error .endOfText

/-- The items of an array, of which there is at least one, and its closing bracket. -/
def contentItems : Nat → Nat → List Char → Parsed Content
  | 0, _, _ => .error .malformed
  | fuel + 1, room, text =>
    match content fuel room text with
    | .error problem => .error problem
    | .ok (_, rest) =>
      match skipBlank rest with
      | ']' :: rest => .ok (.other, rest)
      | ',' :: rest => contentItems fuel room rest
      | rest => .error (stuck rest)

/-- The members of an object, of which there is at least one, and its closing brace. -/
def contentMembers : Nat → Nat → List Char → Parsed Content
  | 0, _, _ => .error .malformed
  | fuel + 1, room, text =>
    match memberKey text with
    | .error problem => .error problem
    | .ok (_, rest) =>
      match content fuel room rest with
      | .error problem => .error problem
      | .ok (_, rest) =>
        match skipBlank rest with
        | '}' :: rest => .ok (.other, rest)
        | ',' :: rest => contentMembers fuel room rest
        | rest => .error (stuck rest)
end

/-- The value of an entry that a value in full stands for: an integer within 64 bits or a
    text. -/
def Content.value? : Content → Option RecordValue
  | .number (.integer n) => (Number.int64OfInt? n).map .int
  | .string text => some (.text text)
  | _ => none

/-- The value of an entry, or nothing for `null`. -/
def optionalValue (room : Nat) (text : List Char) : Parsed (Option RecordValue) :=
  match skipBlank text with
  | 'n' :: rest => (word ['u', 'l', 'l'] rest).map fun rest => (none, rest)
  | rest =>
    match content (enough rest) room rest with
    | .error problem => .error problem
    | .ok (content, rest) =>
      -- the value is read in full before it is judged
      match content.value? with
      | some value => .ok (some value, rest)
      | none => .error (.mismatch (.noVariant valueType))

/-! ## §3 Records -/

/-- The next field of an object: nothing behind the last one, and otherwise the text of the
    field name without its opening quote. Fields after the first follow a comma. -/
def nextField (isFirst : Bool) (text : List Char) : Except Problem (Option (List Char)) :=
  match skipBlank text with
  | '}' :: _ => .ok none
  | ',' :: rest =>
    if isFirst then .error .malformed
    else match skipBlank rest with
      | '"' :: rest => .ok (some rest)
      | rest => .error (stuck rest)
  | '"' :: rest => if isFirst then .ok (some rest) else .error .malformed
  | rest => .error (stuck rest)

/-- The next item of an array: nothing behind the last one, and otherwise the text at the
    item. Items after the first follow a comma. -/
def nextItem (isFirst : Bool) (text : List Char) : Except Problem (Option (List Char)) :=
  match skipBlank text with
  | ']' :: _ => .ok none
  | [] => .error .endOfText
  | c :: rest =>
    if isFirst then .ok (some (c :: rest))
    else if c = ',' then
      match skipBlank rest with
      | ']' :: _ => .error .malformed
      | [] => .error .endOfText
      | rest => .ok (some rest)
    else .error .malformed

/-- The closing mark of an array or object. -/
def closing (mark : Char) (text : List Char) : Except Problem (List Char) :=
  match skipBlank text with
  | c :: rest => if c = mark then .ok rest else .error .malformed
  | [] => .error .endOfText

/-- The fields of a record in array form, the children being read by `readChildren`. -/
def positional (room : Nat) (readChildren : List Char → Parsed (List Record))
    (text : List Char) : Except Problem (Record × List Char) := do
  match ← nextItem true text with
  | none => .error (.mismatch (.invalidLength 0 (recordType ++ " with 4 elements")))
  | some rest =>
    let (kind, rest) ← stringAt rest
    match ← nextItem false rest with
    | none => return (⟨{ kind }, []⟩, rest)
    | some rest =>
      let (name, rest) ← optionalString rest
      match ← nextItem false rest with
      | none => return (⟨{ kind, name }, []⟩, rest)
      | some rest =>
        let (value, rest) ← optionalValue room rest
        match ← nextItem false rest with
        | none => return (⟨{ kind, name, value }, []⟩, rest)
        | some rest =>
          let (children, rest) ← readChildren rest
          return (⟨{ kind, name, value }, children⟩, rest)

mutual
/-- A record, in which `room` arrays and objects may still be opened. -/
def recordAt : Nat → Nat → List Char → Parsed Record
  | 0, _, _ => .error .malformed
  | fuel + 1, room, text =>
    match skipBlank text with
    | '{' :: rest =>
      match room with
      | 0 => .error .malformed
      | room + 1 => membersAt fuel room true {} rest
    | '[' :: rest =>
      match room with
      | 0 => .error .malformed
      | room + 1 =>
        match positional room (fun text => childrenAt fuel room text) rest with
        | .error problem => .error problem
        | .ok (record, rest) => (closing ']' rest).map fun rest => (record, rest)
    | rest => .error (unexpected recordType rest)

/-- The fields of an object from the next one on, and its closing brace. -/
def membersAt : Nat → Nat → Bool → Draft → List Char → Parsed Record
  | 0, _, _, _, _ => .error .malformed
  | fuel + 1, room, isFirst, draft, text =>
    match nextField isFirst text with
    | .error problem => .error problem
    | .ok none =>
      -- a field that is missing is noticed before the brace is read
      match draft.finish with
      | .error mismatch => .error (.mismatch mismatch)
      | .ok record => (closing '}' text).map fun rest => (record, rest)
    | .ok (some rest) =>
      match Json.text rest with
      | .error problem => .error problem
      | .ok ("kind", rest) =>
        if draft.kind.isSome then .error (.mismatch (.duplicateField "kind"))
        else match colon rest >>= stringAt with
          | .error problem => .error problem
          | .ok (kind, rest) => membersAt fuel room false { draft with kind := some kind } rest
      | .ok ("name", rest) =>
        if draft.name.isSome then .error (.mismatch (.duplicateField "name"))
        else match colon rest >>= optionalString with
          | .error problem => .error problem
          | .ok (name, rest) => membersAt fuel room false { draft with name := some name } rest
      | .ok ("value", rest) =>
        if draft.value.isSome then .error (.mismatch (.duplicateField "value"))
        else match colon rest >>= optionalValue room with
          | .error problem => .error problem
          | .ok (value, rest) => membersAt fuel room false { draft with value := some value } rest
      | .ok ("children", rest) =>
        if draft.children.isSome then .error (.mismatch (.duplicateField "children"))
        else match colon rest with
          | .error problem => .error problem
          | .ok rest =>
            match childrenAt fuel room rest with
            | .error problem => .error problem
            | .ok (children, rest) =>
              membersAt fuel room false { draft with children := some children } rest
      -- fields of other names do not count towards the nesting
      | .ok (_, rest) =>
        match colon rest >>= skipAny with
        | .error problem => .error problem
        | .ok rest => membersAt fuel room false draft rest

/-- The array of children. -/
def childrenAt : Nat → Nat → List Char → Parsed (List Record)
  | 0, _, _ => .error .malformed
  | fuel + 1, room, text =>
    match skipBlank text with
    | '[' :: rest =>
      match room with
      | 0 => .error .malformed
      | room + 1 => itemsAt fuel room true rest
    | rest => .error (unexpected "a sequence" rest)

/-- The children from the next one on, and the closing bracket. -/
def itemsAt : Nat → Nat → Bool → List Char → Parsed (List Record)
  | 0, _, _, _ => .error .malformed
  | fuel + 1, room, isFirst, text =>
    match nextItem isFirst text with
    | .error problem => .error problem
    | .ok none => (closing ']' text).map fun rest => ([], rest)
    | .ok (some rest) =>
      match recordAt fuel room rest with
      | .error problem => .error problem
      | .ok (record, rest) =>
        match itemsAt fuel room false rest with
        | .error problem => .error problem
        | .ok (records, rest) => .ok (record :: records, rest)
end

end Outline.Json

namespace Outline

/-- The record that a JSON text describes. Nothing but blanks may follow it. -/
def Record.ofJson (source : String) : Except Json.Problem Record :=
  match Json.recordAt (Json.enough source.toList) Json.maxOpen source.toList with
  | .error problem => .error problem
  | .ok (record, rest) =>
    match Json.skipBlank rest with
    | [] => .ok record
    | _ :: _ => .error .malformed

end Outline
