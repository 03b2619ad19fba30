import Outline.Tree.Rows

/-!
# Trees

Induction over trees, and how the measures of a tree go together.

- `Tree.induction` — a property of all children carries over to the tree
- `Tree.subtrees_eq` — a listing has the tree first, then the listings of its children
- `Tree.length_subtrees` — a listing has one row per node
- `Tree.height_map` — relabelling keeps the height
-/

namespace Outline

namespace Tree

variable {α : Type}

/-! ## §1 Induction -/

/-- What holds of a tree whenever it holds of its children holds of all trees. -/
theorem induction {motive : Tree α → Prop}
    (node : ∀ item children, (∀ child ∈ children, motive child) → motive ⟨item, children⟩) :
    ∀ tree, motive tree := by
  intro tree
  -- the second motive is what the recursor asks of the list of children
  refine @Tree.rec α motive (fun trees => ∀ child ∈ trees, motive child) node ?nil ?cons tree
  case nil =>
    intro child h
    cases h
  case cons =>
    intro first rest hFirst hRest child h
    rcases List.mem_cons.mp h with rfl | h
    · exact hFirst
    · exact hRest child h

/-! ## §2 Children -/

theorem mapEach_eq_map {β : Type} (f : α → β) (trees : List (Tree α)) :
    mapEach f trees = trees.map (Tree.map f) := by
  induction trees with
  | nil => rfl
  | cons first rest ih => rw [mapEach, ih, List.map_cons]

theorem subtreesEach_eq_flatMap (depth : Nat) (trees : List (Tree α)) :
    subtreesEach depth trees = trees.flatMap (subtrees depth) := by
  induction trees with
  | nil => rfl
  | cons first rest ih => rw [subtreesEach, ih, List.flatMap_cons]

theorem subtrees_eq (depth : Nat) (tree : Tree α) :
    tree.subtrees depth = (depth, tree) :: tree.children.flatMap (subtrees (depth + 1)) := by
  obtain ⟨item, children⟩ := tree
  rw [subtrees, subtreesEach_eq_flatMap]

/-! ## §3 Sizes -/

/-- A listing in pre-order has one row per node. -/
theorem length_subtrees (tree : Tree α) (depth : Nat) :
    (tree.subtrees depth).length = tree.count := by
  induction tree using Tree.induction generalizing depth with
  | node item children ih =>
    have each : ∀ trees : List (Tree α), (∀ tree ∈ trees, tree ∈ children) →
        (subtreesEach (depth + 1) trees).length = countEach trees := by
      intro trees
      induction trees with
      | nil => intro _; rfl
      | cons first rest ihRest =>
        intro h
        have hFirst := ih first (h first (List.mem_cons_self ..)) (depth + 1)
        have hRest := ihRest fun tree hTree => h tree (List.mem_cons_of_mem _ hTree)
        simp only [subtreesEach, countEach, List.length_append, hFirst, hRest]
    simp only [subtrees, count, List.length_cons, each children fun _ h => h]
    omega

/-- A tree has at least one level. -/
theorem height_pos (tree : Tree α) : 0 < tree.height := by
  obtain ⟨item, children⟩ := tree
  simp only [height]
  omega

/-- The greatest height is bounded exactly if all heights are. -/
theorem heightEach_le_iff {trees : List (Tree α)} {bound : Nat} :
    heightEach trees ≤ bound ↔ ∀ tree ∈ trees, tree.height ≤ bound := by
  induction trees with
  | nil => simp [heightEach]
  | cons first rest ih => rw [heightEach, Nat.max_le, ih, List.forall_mem_cons]

/-- Relabelling keeps the height. -/
theorem height_map {β : Type} (f : α → β) (tree : Tree α) :
    (tree.map f).height = tree.height := by
  induction tree using Tree.induction with
  | node item children ih =>
    have each : ∀ trees : List (Tree α), (∀ tree ∈ trees, tree ∈ children) →
        heightEach (mapEach f trees) = heightEach trees := by
      intro trees
      induction trees with
      | nil => intro _; rfl
      | cons first rest ihRest =>
        intro h
        have hFirst := ih first (h first (List.mem_cons_self ..))
        have hRest := ihRest fun tree hTree => h tree (List.mem_cons_of_mem _ hTree)
        simp only [mapEach, heightEach, hFirst, hRest]
    simp only [Tree.map, height, each children fun _ h => h]

end Tree

end Outline
