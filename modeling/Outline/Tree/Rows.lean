import Outline.Tree.Basic

/-!
# Trees as pre-order rows

A tree can be laid out as the list of its nodes in pre-order, each with its depth. The
root has the depth at which the listing starts.

- `Tree.rows` — every item with its depth
- `Tree.subtrees` — every subtree with its depth
- `Tree.ofRows?` — the tree that such a list of items lays out
-/

namespace Outline

namespace Tree

/-! ## §1 Laying out -/

mutual
/-- Every subtree in pre-order, with its depth; the root stands at `depth`. -/
def subtrees {α : Type} (depth : Nat) : Tree α → List (Nat × Tree α)
  | ⟨item, children⟩ => (depth, ⟨item, children⟩) :: subtreesEach (depth + 1) children

/-- The subtrees of every tree of a list, one tree after the other. -/
def subtreesEach {α : Type} (depth : Nat) : List (Tree α) → List (Nat × Tree α)
  | [] => []
  | tree :: rest => tree.subtrees depth ++ subtreesEach depth rest
end

/-- Every item in pre-order with its depth; the root stands at depth zero. -/
def rows {α : Type} (tree : Tree α) : List (Nat × α) :=
  (tree.subtrees 0).map fun (depth, subtree) => (depth, subtree.item)

/-! ## §2 Reading rows back -/

/-- Puts one row in front of trees already built from the rows after it: the deeper ones
    that follow it directly become its children. -/
def attach {α : Type} (row : Nat × α) (after : List (Nat × Tree α)) : List (Nat × Tree α) :=
  (row.1, ⟨row.2, (after.takeWhile (row.1 < ·.1)).map (·.2)⟩)
    :: after.dropWhile (row.1 < ·.1)

/-- The tree laid out by a list of rows, if they form exactly one. -/
def ofRows? {α : Type} (rows : List (Nat × α)) : Option (Tree α) :=
  match rows.foldr attach [] with
  | [(_, tree)] => some tree
  | _ => none

end Tree

end Outline
