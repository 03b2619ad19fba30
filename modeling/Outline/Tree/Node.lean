import Outline.Tree.Basic

/-!
# Syntax tree nodes

The kinds of node a syntax tree is made of, and the text shown for each. Five kinds are
*specialized*: a visitor has an operation of its own for each of them. Every other kind
is known by its name only.
-/

namespace Outline

/-- What a node stands for. -/
inductive Kind where
  | start
  | add
  | multiply
  | identifier (name : String)
  | integer (value : Int64)
  /-- Any kind without an operation of its own. -/
  | other (name : String)
deriving DecidableEq

instance : Inhabited Kind := ⟨.start⟩

namespace Kind

/-- The name of the kind, without what it carries. -/
def name : Kind → String
  | start => "Start"
  | add => "Add"
  | multiply => "Multiply"
  | identifier _ => "Identifier"
  | integer _ => "Integer"
  | other name => name

/-- Whether visitors have an operation of their own for the kind. -/
def isSpecialized : Kind → Bool
  | other _ => false
  | _ => true

/-- The text shown for a node of this kind: its name, followed in parentheses by the
    identifier or integer it carries. -/
def label : Kind → String
  | identifier name => "Identifier(" ++ name ++ ")"
  | integer value => "Integer(" ++ toString value.toInt ++ ")"
  | kind => kind.name

end Kind

/-- A syntax tree. -/
abbrev Node := Tree Kind

/-- The text shown for the root of a syntax tree. -/
def Node.label (node : Node) : String := node.item.label

end Outline
