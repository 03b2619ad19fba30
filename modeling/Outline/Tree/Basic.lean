/-!
# Ordered trees

A tree is an item together with the ordered list of its subtrees. The same type carries
syntax trees, whose items are kinds, and descriptions of them, whose items are record
entries.

- `Tree.count`, `Tree.height` — size and number of levels
- `Tree.map` — relabelling
- an instance of `DecidableEq`
-/

namespace Outline

/-- An item with the ordered list of the subtrees below it. -/
structure Tree (α : Type) where
  /-- What stands at the root. -/
  item : α
  /-- The subtrees below the root, in order. -/
  children : List (Tree α)

namespace Tree

/-! ## §1 Building and inspecting -/

/-- The tree with one node. -/
def leaf {α : Type} (item : α) : Tree α := ⟨item, []⟩

instance {α : Type} [Inhabited α] : Inhabited (Tree α) := ⟨leaf default⟩

/-- The tree with one more subtree, put after the others. -/
def withChild {α : Type} (tree child : Tree α) : Tree α :=
  ⟨tree.item, tree.children ++ [child]⟩

/-- A leaf has nothing below its root. -/
def isLeaf {α : Type} (tree : Tree α) : Bool := tree.children.isEmpty

mutual
/-- The number of nodes, the root included. -/
def count {α : Type} : Tree α → Nat
  | ⟨_, children⟩ => 1 + countEach children

/-- The number of nodes of all trees of a list. -/
def countEach {α : Type} : List (Tree α) → Nat
  | [] => 0
  | tree :: rest => tree.count + countEach rest
end

mutual
/-- The number of levels; a leaf has one. -/
def height {α : Type} : Tree α → Nat
  | ⟨_, children⟩ => 1 + heightEach children

/-- The greatest height in a list of trees, and zero for the empty list. -/
def heightEach {α : Type} : List (Tree α) → Nat
  | [] => 0
  | tree :: rest => max tree.height (heightEach rest)
end

/-! ## §2 Relabelling -/

mutual
/-- The tree of the same shape with every item replaced by its image. -/
def map {α β : Type} (f : α → β) : Tree α → Tree β
  | ⟨item, children⟩ => ⟨f item, mapEach f children⟩

/-- Relabels every tree of a list. -/
def mapEach {α β : Type} (f : α → β) : List (Tree α) → List (Tree β)
  | [] => []
  | tree :: rest => tree.map f :: mapEach f rest
end

/-! ## §3 Equality -/

mutual
/-- Decides whether two trees are the same. -/
def decEq {α : Type} [DecidableEq α] : (s t : Tree α) → Decidable (s = t)
  | ⟨a, as⟩, ⟨b, bs⟩ =>
    match inferInstanceAs (Decidable (a = b)), decEqEach as bs with
    | isTrue h, isTrue k => isTrue (by rw [h, k])
    | isFalse h, _ => isFalse fun e => h (Tree.mk.inj e).1
    | _, isFalse k => isFalse fun e => k (Tree.mk.inj e).2

/-- Decides whether two lists of trees are the same. -/
def decEqEach {α : Type} [DecidableEq α] : (s t : List (Tree α)) → Decidable (s = t)
  | [], [] => isTrue rfl
  | [], _ :: _ => isFalse (fun e => by cases e)
  | _ :: _, [] => isFalse (fun e => by cases e)
  | s :: ss, t :: ts =>
    match decEq s t, decEqEach ss ts with
    | isTrue h, isTrue k => isTrue (by rw [h, k])
    | isFalse h, _ => isFalse fun e => h (List.cons.inj e).1
    | _, isFalse k => isFalse fun e => k (List.cons.inj e).2
end

instance {α : Type} [DecidableEq α] : DecidableEq (Tree α) := decEq

end Tree

end Outline
