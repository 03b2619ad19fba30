import Outline.Toml.Value

/-!
# Tables under construction

The statements of a document add to its tables one after the other. A table remembers how
it came about, because that decides what later statements may do with it.

- `within?` — goes down a path of keys and changes the table found there
- `define?` — adds a value under a dotted key
- `openTable?`, `openItem?` — what headers do
-/

namespace Outline.Toml

/-- How a table came about. -/
inductive Standing where
  /-- By a header of its own, or as the whole document. -/
  | explicit
  /-- As a table on the way to that of a header. -/
  | implied
  /-- By a dotted key. -/
  | dotted
deriving DecidableEq

/-- What stands under a key. -/
inductive Item where
  | value (value : Value)
  | table (standing : Standing) (fields : List (String × Item))
  /-- The tables of headers in double brackets. -/
  | tables (items : List (List (String × Item)))

/-- The fields of a table under construction. -/
abbrev Fields := List (String × Item)

/-- The fields with another item under a key that is there already. -/
def replace (key : String) (item : Item) (fields : Fields) : Fields :=
  fields.map fun (other, old) => (other, if other = key then item else old)

/-- Goes down a path from a table and changes the table it leads to. Tables that are not
    there are created. From a list of tables the way leads on to the last of them. By
    dotted keys no explicit table can be entered. -/
def within? (byDots : Bool) (change : Standing → Fields → Option Fields) :
    List String → Standing → Fields → Option Fields
  | [], standing, fields => change standing fields
  | key :: path, _, fields =>
    match fields.lookup key with
    | none =>
      -- the new table remembers whether a key or a header asked for it
      let standing := if byDots then Standing.dotted else Standing.implied
      match within? byDots change path standing [] with
      | some inner => some (fields ++ [(key, .table standing inner)])
      | none => none
    | some (.value _) => none
    | some (.table standing inner) =>
      if byDots && standing = .explicit then none
      else match within? byDots change path standing inner with
        | some inner => some (replace key (.table standing inner) fields)
        | none => none
    | some (.tables items) =>
      -- what follows a header in double brackets is about the latest table
      match items.getLast? with
      | none => none
      | some last =>
        match within? byDots change path .explicit last with
        | some inner => some (replace key (.tables (items.dropLast ++ [inner])) fields)
        | none => none

/-- Adds a value under a key that is still free. Dotted keys only add to tables that dotted
    keys have made. -/
def add? (byDots : Bool) (key : String) (value : Value) (standing : Standing)
    (fields : Fields) : Option Fields :=
  if byDots = decide (standing = .dotted) ∧ (fields.lookup key).isNone then
    some (fields ++ [(key, .value value)])
  else none

/-- Adds a value under a dotted key, given by its last part and those before it. -/
def define? (path : List String) (key : String) (value : Value) (fields : Fields) :
    Option Fields :=
  within? true (add? (!path.isEmpty) key value) path .explicit fields

/-- Opens the table of a header, which has to be new, or implied by an earlier header. -/
def openTable? (key : String) (_ : Standing) (fields : Fields) : Option Fields :=
  match fields.lookup key with
  | none => some (fields ++ [(key, .table .explicit [])])
  | some (.table .implied inner) => some (replace key (.table .explicit inner) fields)
  | some _ => none

/-- Opens the next table of a list of tables. -/
def openItem? (key : String) (_ : Standing) (fields : Fields) : Option Fields :=
  match fields.lookup key with
  | none => some (fields ++ [(key, .tables [[]])])
  | some (.tables items) => some (replace key (.tables (items ++ [[]])) fields)
  | some _ => none

mutual
/-- The value an item stands for. -/
def Item.toValue : Item → Value
  | .value value => value
  | .table _ fields => .table (fieldValues fields)
  | .tables items => .array (tableValues items)

/-- The values of fields. -/
def fieldValues : List (String × Item) → List (String × Value)
  | [] => []
  | (key, item) :: rest => (key, item.toValue) :: fieldValues rest

/-- The values of a list of tables. -/
def tableValues : List (List (String × Item)) → List Value
  | [] => []
  | fields :: rest => .table (fieldValues fields) :: tableValues rest
end

end Outline.Toml
