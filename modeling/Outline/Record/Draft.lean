import Outline.Mismatch
import Outline.Record.Basic

/-!
# Records in the making

Readers collect the fields of a record in a draft. A field may be given once; only the
kind has no default.
-/

namespace Outline

/-- How messages name a record. -/
def recordType : String := "struct NodeRecord"

/-- How messages name the value of an entry. -/
def valueType : String := "RecordValue"

/-- The fields of a record read so far. -/
structure Draft where
  kind : Option String := none
  name : Option (Option String) := none
  value : Option (Option RecordValue) := none
  children : Option (List Record) := none

namespace Draft

/-- The record of all fields. -/
def finish (draft : Draft) : Except Mismatch Record :=
  match draft.kind with
  | none => .error (.missingField "kind")
  | some kind =>
    .ok ⟨{ kind, name := draft.name.getD none, value := draft.value.getD none },
      draft.children.getD []⟩

end Draft

end Outline
