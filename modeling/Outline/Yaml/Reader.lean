import Outline.Record.Draft
import Outline.Yaml.Document
import Outline.Yaml.Scalar

/-!
# Reading descriptions from YAML

A record is a mapping with the fields `kind`, `name`, `value` and `children` in any order;
other fields are skipped. The document is read from its beginning, so that the first
problem is the one reported: something unexpected before the place where the text is
refused comes before the refusal.

At most `maxDepth` sequences and mappings may be entered at once, also through aliases,
and aliases may be followed a limited number of times.
-/

namespace Outline.Yaml

/-- How many sequences and mappings may be entered at once. -/
def maxDepth : Nat := 128

/-! ## §1 Problems -/

/-- Why a document could not be read. -/
inductive Problem where
  /-- The text is refused, or it does not fit its own tags. -/
  | malformed
  /-- Sequences and mappings are nested too deep. -/
  | tooDeep
  /-- Aliases are followed too often. -/
  | tooManyAliases
  /-- The text has something unexpected at a path of field names and positions. -/
  | mismatch (path : String) (cause : Mismatch)

namespace Problem

/-- The text that reports a problem. -/
def message : Problem → String
  | malformed => "malformed document"
  | tooDeep => "recursion limit exceeded"
  | tooManyAliases => "repetition limit exceeded"
  | mismatch path cause => (if path.isEmpty then "" else path ++ ": ") ++ cause.message

end Problem

/-- Reading, which counts how often aliases are followed. -/
abbrev Reading (α : Type) := StateT Nat (Except Problem) α

/-- The path of a field. -/
def fieldPath (path name : String) : String := if path.isEmpty then name else path ++ "." ++ name

/-- The path of the value of a key; only scalars have a name there. -/
def memberPath (path : String) : Content → String
  | .scalar _ _ text _ => fieldPath path text
  | _ => fieldPath path "?"

/-- The path of an item. -/
def itemPath (path : String) (position : Nat) : String :=
  path ++ "[" ++ toString position ++ "]"

/-! ## §2 Nodes -/

/-- The node itself, or the one that an alias refers to. -/
def follow (document : Document) (content : Content) : Reading Content := do
  match content with
  | .alias anchor =>
    let count := (← get) + 1
    set count
    if count > document.size * 100 then throw .tooManyAliases
    match document.target? anchor with
    | some target => return target
    | none => throw .malformed
  | content => return content

/-- The problem with a node where something else is expected. -/
def unexpected (path expected : String) : Content → Problem
  | .scalar _ tag text isPlain =>
    match resolve tag text isPlain with
    | some value => .mismatch path (.invalidType value.found expected)
    | none => .malformed
  | .sequence _ _ _ => .mismatch path (.invalidType .sequence expected)
  | .mapping _ _ _ => .mismatch path (.invalidType .map expected)
  | .alias _ | .void | .broken => .malformed

/-- A node that is not there: an empty plain scalar, or a text without a document. -/
def isAbsent : Content → Bool
  | .scalar _ _ text isPlain => isPlain && text.isEmpty
  | .void => true
  | _ => false

/-- Whether a node stands for something, and not for null. -/
def isPresent : Content → Except Problem Bool
  | .scalar _ tag text isPlain =>
    if !isPlain then .ok true
    else match tag with
      | none => .ok !(text.isEmpty || isNullWord text)
      | some tag =>
        if tag ≠ standardTag "null" then .ok true
        else if isNullWord text then .ok false else .error .malformed
  | .void => .ok false
  | .broken => .error .malformed
  | _ => .ok true

/-- A tag of the document's own, which no value may have. -/
def isOwnTag (tag : Option String) : Bool := tag.any (·.startsWith "!")

/-! ## §3 Names and values -/

/-- A string, which any scalar is. -/
def stringAt (document : Document) (path expected : String) (content : Content) :
    Reading String := do
  match ← follow document content with
  | .scalar _ _ text _ => return text
  | content => throw (unexpected path expected content)

/-- A string, or nothing for null. -/
def optionalString (document : Document) (path : String) (content : Content) :
    Reading (Option String) := do
  let content ← follow document content
  if ← isPresent content then return some (← stringAt document path "a string" content)
  else return none

/-- The value of an entry that a scalar stands for: an integer within 64 bits or a text. -/
def recordValue? : ScalarValue → Option RecordValue
  | .integer n => (Number.int64OfInt? n).map .int
  | .text text => some (.text text)
  | _ => none

mutual
/-- A value of any form: the value of an entry if it is one, and nothing otherwise. `depth`
    sequences and mappings may still be entered. -/
def anyValue (document : Document) (depth : Nat) (path : String) (content : Content) :
    Reading (Option RecordValue) := do
  match ← follow document content with
  | .scalar _ tag text isPlain =>
    if isOwnTag tag then throw .malformed
    match resolve tag text isPlain with
    | none => throw .malformed
    -- integers of this size are refused before the value is judged
    | some (.wideInteger n negative) =>
      throw (.mismatch path (.invalidType (.wideInteger n negative) "any value"))
    | some value => return recordValue? value
  | .sequence _ tag items =>
    if isOwnTag tag then throw .malformed
    match depth with
    | 0 => throw .tooDeep
    | depth + 1 =>
      anyItems document depth path 0 items
      return none
  | .mapping _ tag members =>
    if isOwnTag tag then throw .malformed
    match depth with
    | 0 => throw .tooDeep
    | depth + 1 =>
      anyMembers document depth path members
      return none
  | .void => return none
  | _ => throw .malformed
termination_by (depth, 0)

/-- Reads the items of a sequence, the first of which has a given position. -/
def anyItems (document : Document) (depth : Nat) (path : String) (position : Nat)
    (items : List Content) : Reading Unit := do
  match items with
  | [] => return
  | item :: rest =>
    let _ ← anyValue document depth (itemPath path position) item
    anyItems document depth path (position + 1) rest
termination_by (depth, items.length + 1)

/-- Reads the keys and values of a mapping. -/
def anyMembers (document : Document) (depth : Nat) (path : String) (members : List Content) :
    Reading Unit := do
  match members with
  | [] => return
  | [key] =>
    let _ ← anyValue document depth path key
    throw .malformed
  | key :: value :: rest =>
    let _ ← anyValue document depth path key
    let _ ← anyValue document depth (memberPath path key) value
    anyMembers document depth path rest
termination_by (depth, members.length + 1)
end

/-- The value of an entry, or nothing for null. A value of no accepted form is reported at
    the path of the record. -/
def optionalValue (document : Document) (depth : Nat) (recordPath : String) (content : Content) :
    Reading (Option RecordValue) := do
  let content ← follow document content
  if ← isPresent content then
    match ← anyValue document depth (fieldPath recordPath "value") content with
    | some value => return some value
    | none => throw (.mismatch recordPath (.noVariant valueType))
  else return none

/-! ## §4 Records -/

mutual
/-- A record; `depth` sequences and mappings may still be entered. -/
def recordAt (document : Document) (depth : Nat) (path : String) (content : Content) :
    Reading Record := do
  let content ← follow document content
  match content with
  | .mapping _ _ members =>
    match depth with
    | 0 => throw .tooDeep
    | depth + 1 => membersAt document depth path {} members
  | content =>
    if isAbsent content then throw (.mismatch path (.missingField "kind"))
    else throw (unexpected path recordType content)
termination_by (depth, 0)

/-- The fields of a record from the next one on. -/
def membersAt (document : Document) (depth : Nat) (path : String) (draft : Draft)
    (members : List Content) : Reading Record := do
  match members with
  | [] =>
    match draft.finish with
    | .ok record => return record
    | .error cause => throw (.mismatch path cause)
  | [key] =>
    let _ ← stringAt document path "field identifier" key
    throw .malformed
  | key :: value :: rest =>
    match ← stringAt document path "field identifier" key with
    | "kind" =>
      if draft.kind.isSome then throw (.mismatch path (.duplicateField "kind"))
      let kind ← stringAt document (memberPath path key) "a string" value
      membersAt document depth path { draft with kind := some kind } rest
    | "name" =>
      if draft.name.isSome then throw (.mismatch path (.duplicateField "name"))
      let name ← optionalString document (memberPath path key) value
      membersAt document depth path { draft with name := some name } rest
    | "value" =>
      if draft.value.isSome then throw (.mismatch path (.duplicateField "value"))
      let found ← optionalValue document depth path value
      membersAt document depth path { draft with value := some found } rest
    | "children" =>
      if draft.children.isSome then throw (.mismatch path (.duplicateField "children"))
      let children ← childrenAt document depth (memberPath path key) value
      membersAt document depth path { draft with children := some children } rest
    | _ =>
      -- the content of other fields does not matter, as long as it is there
      if value.isComplete then membersAt document depth path draft rest
      else throw .malformed
termination_by (depth, members.length + 1)

/-- The sequence of children. -/
def childrenAt (document : Document) (depth : Nat) (path : String) (content : Content) :
    Reading (List Record) := do
  let content ← follow document content
  match content with
  | .sequence _ _ items =>
    match depth with
    | 0 => throw .tooDeep
    | depth + 1 => itemsAt document depth path 0 items
  | content =>
    if isAbsent content then return []
    else throw (unexpected path "a sequence" content)
termination_by (depth, 0)

/-- The children from the one with a given position on. -/
def itemsAt (document : Document) (depth : Nat) (path : String) (position : Nat)
    (items : List Content) : Reading (List Record) := do
  match items with
  | [] => return []
  | item :: rest =>
    let record ← recordAt document depth (itemPath path position) item
    let records ← itemsAt document depth path (position + 1) rest
    return record :: records
termination_by (depth, items.length + 1)
end

end Outline.Yaml

namespace Outline

/-- The record that a YAML text describes. The text has to be accepted as a whole. -/
def Record.ofYaml (source : String) : Except Yaml.Problem Record :=
  let document := Yaml.Document.ofText source.toList
  match (Yaml.recordAt document Yaml.maxDepth "" document.root).run 0 with
  | .error problem => .error problem
  | .ok (record, _) => if document.isAlone then .ok record else .error .malformed

end Outline
