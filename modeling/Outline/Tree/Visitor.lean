import Outline.Tree.Node

/-!
# Visitors

A visitor has one operation per specialized kind and a general one. A node is handed to
the operation of its kind. An operation receives the node, a way to visit the children of
that node, and the data threaded through the visit; it decides itself whether, and when,
to go down.

Visits may fail and they change a state. The state is kept when they fail.

- `Visitor.visit` — hand a node to the operation of its kind
- `Visitor.visitEach` — visit a list of nodes from left to right, up to the first failure
-/

namespace Outline

/-- A step on a state that returns a value or an error. The state it leaves is there in
    both cases. -/
abbrev Step (σ ε α : Type) := σ → Except ε α × σ

/-- What a visitor does with one node. The second argument visits the children of the node
    from left to right, passing on the data it is given. -/
abbrev Operation (σ ε δ : Type) := Node → (δ → Step σ ε δ) → δ → Step σ ε δ

/-- One operation for each specialized kind, and a general one. An operation that is not
    given is the general one. -/
structure Visitor (σ ε δ : Type) where
  /-- The general operation, for kinds without one of their own. -/
  node : Operation σ ε δ
  start : Operation σ ε δ := node
  add : Operation σ ε δ := node
  multiply : Operation σ ε δ := node
  identifier : Operation σ ε δ := node
  integer : Operation σ ε δ := node

namespace Visitor

variable {σ ε δ : Type}

/-- The operation a kind is handed to. -/
def operation (visitor : Visitor σ ε δ) : Kind → Operation σ ε δ
  | .start => visitor.start
  | .add => visitor.add
  | .multiply => visitor.multiply
  | .identifier _ => visitor.identifier
  | .integer _ => visitor.integer
  | .other _ => visitor.node

mutual
/-- Hands a node to the operation of its kind. -/
def visit (visitor : Visitor σ ε δ) : Node → δ → Step σ ε δ
  | ⟨kind, children⟩, data =>
    visitor.operation kind ⟨kind, children⟩ (fun data => visitEach visitor children data) data

/-- Visits nodes from left to right, feeding the data returned by one into the next, and
    stops at the first failure. -/
def visitEach (visitor : Visitor σ ε δ) : List Node → δ → Step σ ε δ
  | [], data, state => (.ok data, state)
  | node :: rest, data, state =>
    match visit visitor node data state with
    | (.ok data, state) => visitEach visitor rest data state
    | (.error error, state) => (.error error, state)
end

/-- Visits the children of a node from left to right. -/
def visitChildren (visitor : Visitor σ ε δ) (node : Node) (data : δ) : Step σ ε δ :=
  visitor.visitEach node.children data

/-- Runs an operation on a node, whatever the kind of the node. -/
def perform (visitor : Visitor σ ε δ) (operation : Operation σ ε δ) (node : Node) (data : δ) :
    Step σ ε δ :=
  operation node (visitor.visitChildren node) data

end Visitor

end Outline
