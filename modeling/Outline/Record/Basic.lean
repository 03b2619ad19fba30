import Outline.Notice
import Outline.Number.Digits
import Outline.Text.Blank
import Outline.Tree.Node

/-!
# Records

A description of a syntax tree is a tree of record entries. An entry has a kind, and
possibly a name and a value. The six kinds that written descriptions use are matched
whatever the case of their ASCII letters; every other kind is kept as it is written.

- `Record.ofNode` — the description of a syntax tree
- `Record.toNode` — the syntax tree of a description, or the error of its first entry in
  pre-order that describes none
-/

namespace Outline

/-! ## §1 Entries -/

/-- What an entry can have as its value. -/
inductive RecordValue where
  | int (value : Int64)
  | text (content : String)
deriving DecidableEq

namespace RecordValue

/-- The value as text, integers in decimal. -/
def toText : RecordValue → String
  | int value => toString value.toInt
  | text content => content

end RecordValue

/-- The description of one node, apart from its children. -/
structure Entry where
  kind : String
  /-- The name of the kind, for the kind `other`. -/
  name : Option String := none
  value : Option RecordValue := none
deriving DecidableEq

/-- The description of a syntax tree. -/
abbrev Record := Tree Entry

/-- Why an entry describes no node. The kind is given as it is written. -/
inductive EntryError where
  | missingValue (kind : String)
  | missingName (kind : String)
  | invalidValue (kind value : String)
deriving DecidableEq

namespace EntryError

/-- The text that reports the error. -/
def message : EntryError → String
  | missingValue kind => "`" ++ kind ++ "` node requires a value"
  | missingName kind => "`" ++ kind ++ "` node requires a name"
  | invalidValue kind value => "invalid value `" ++ value ++ "` for `" ++ kind ++ "` node"

end EntryError

/-! ## §2 From nodes to records -/

namespace Entry

/-- The entry that describes a kind. -/
def ofKind : Kind → Entry
  | .start => { kind := "start" }
  | .add => { kind := "add" }
  | .multiply => { kind := "multiply" }
  | .identifier name => { kind := "identifier", value := some (.text name) }
  | .integer value => { kind := "integer", value := some (.int value) }
  | .other name => { kind := "other", name := some name }

end Entry

/-- The description of a syntax tree. -/
def Record.ofNode (node : Node) : Record := node.map Entry.ofKind

/-! ## §3 From records to nodes -/

/-- The integer written by a text: blanks around it, then an optional sign and digits. -/
def integerOfText? (text : String) : Option Int64 :=
  Number.int64OfDecimal? (Text.trim text.toList)

namespace Entry

/-- The kind an entry describes. -/
def toKind (entry : Entry) : Except EntryError Kind :=
  match entry.kind.toLower with
  | "start" => .ok .start
  | "add" => .ok .add
  | "multiply" => .ok .multiply
  | "identifier" =>
    match entry.value with
    | none => .error (.missingValue entry.kind)
    | some (.text name) => .ok (.identifier name)
    | some (.int value) => .error (.invalidValue entry.kind (RecordValue.int value).toText)
  | "integer" =>
    match entry.value with
    | none => .error (.missingValue entry.kind)
    | some (.int value) => .ok (.integer value)
    | some (.text text) =>
      match integerOfText? text with
      | some value => .ok (.integer value)
      | none => .error (.invalidValue entry.kind text)
  | "other" =>
    match entry.name with
    | some name => .ok (.other name)
    | none => .error (.missingName entry.kind)
  -- a kind that is none of the six is its own name
  | _ => .ok (.other entry.kind)

/-- What is reported about parts of an entry that have no use. -/
def notices (entry : Entry) : List Notice :=
  match entry.kind.toLower with
  | "start" | "add" | "multiply" | "identifier" | "integer" => []
  | "other" => if entry.value.isSome then [.ignoredValue entry.kind] else []
  | _ =>
    if entry.value.isSome || entry.name.isSome then [.ignoredValueAndName entry.kind] else []

end Entry

namespace Record

mutual
/-- The syntax tree a record describes. A node is checked before its children, and they
    from left to right; the first error ends the work. -/
def toNode : Record → Logged (Except EntryError Node)
  | ⟨entry, children⟩ =>
    match entry.toKind with
    | .error error => ⟨.error error, entry.notices⟩
    | .ok kind =>
      let below := toNodeEach children
      ⟨below.value.map fun nodes => ⟨kind, nodes⟩, entry.notices ++ below.notices⟩

/-- The syntax trees of a list of records, up to the first error. -/
def toNodeEach : List Record → Logged (Except EntryError (List Node))
  | [] => ⟨.ok [], []⟩
  | record :: rest =>
    let first := toNode record
    match first.value with
    | .error error => ⟨.error error, first.notices⟩
    | .ok node =>
      let others := toNodeEach rest
      ⟨others.value.map fun nodes => node :: nodes, first.notices ++ others.notices⟩
end

end Record

end Outline
