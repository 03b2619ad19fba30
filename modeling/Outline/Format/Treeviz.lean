import Outline.Tree.Node

/-!
# Box drawings of trees

A drawing has one line per node in pre-order, with an icon for its kind and its label. In
front of it stand the rails of the ancestors and a connector that tells whether the node
is the last child.
-/

namespace Outline.Treeviz

/-- Labels are cut after this many characters. -/
def labelWidth : Nat := 30

/-- The icon of a kind. -/
def icon : Kind → String
  | .start => "⧉"
  | .add => "+"
  | .multiply => "×"
  | .identifier _ => "◦"
  | .integer _ => "#"
  | .other _ => "○"

/-- A text that is too long ends in three dots after its first characters. -/
def shorten (width : Nat) (text : String) : String :=
  let chars := text.toList
  if chars.length > width then String.ofList (chars.take width) ++ "..." else text

/-- Icon and label of a kind, up to the line break. -/
def caption (kind : Kind) : String :=
  icon kind ++ " " ++ shorten labelWidth kind.label ++ "\n"

/-- The mark between the rails and the caption. -/
def connector (isLast : Bool) : String := if isLast then "└─" else "├─"

/-- The rail that a child leaves for the lines below it. -/
def rail (isLast : Bool) : String := if isLast then "  " else "│ "

mutual
/-- The lines of a child and everything below it, behind the given rails. -/
def child (rails : String) (isLast : Bool) : Node → String
  | ⟨kind, below⟩ =>
    rails ++ connector isLast ++ " " ++ caption kind ++ children (rails ++ rail isLast) below

/-- The lines of the children of a node; the last one has no sibling after it. -/
def children (rails : String) : List Node → String
  | [] => ""
  | node :: rest => child rails rest.isEmpty node ++ children rails rest
end

end Outline.Treeviz

namespace Outline

/-- The box drawing of a tree. -/
def Node.drawing (root : Node) : String :=
  Treeviz.caption root.item ++ Treeviz.children "" root.children

end Outline
