import Outline.Proofs.Tree.Basic

/-!
# Rows determine trees

Listing the items of a tree in pre-order with their depths loses nothing: `Tree.ofRows?`
builds the tree again.

- `Tree.foldr_attach_subtrees` — the rows of a tree are folded back into the tree
- `Tree.ofRows?_rows`, `Tree.rows_injective` — no two trees have the same rows
- `Tree.subtrees_map`, `Tree.rows_map` — the rows of a relabelled tree
-/

namespace Outline.Tree

variable {α β : Type}

/-! ## §1 Reading rows back -/

/-- The first tree of a list, if there is one, stands at `depth` or above it. -/
def StartsAbove (depth : Nat) (after : List (Nat × Tree α)) : Prop :=
  ∀ row ∈ after.head?, row.1 ≤ depth

theorem StartsAbove.takeWhile_eq_nil {depth : Nat} {after : List (Nat × Tree α)}
    (h : StartsAbove depth after) : after.takeWhile (depth < ·.1) = [] := by
  cases after with
  | nil => rfl
  | cons row rest =>
    have hRow : row.1 ≤ depth := h row rfl
    simp [hRow]

theorem StartsAbove.dropWhile_eq_self {depth : Nat} {after : List (Nat × Tree α)}
    (h : StartsAbove depth after) : after.dropWhile (depth < ·.1) = after := by
  cases after with
  | nil => rfl
  | cons row rest =>
    have hRow : row.1 ≤ depth := h row rfl
    simp [hRow]

/-- Trees one level below a row become its children, up to the first tree above them. -/
theorem attach_children (depth : Nat) (item : α) (children : List (Tree α))
    {after : List (Nat × Tree α)} (h : StartsAbove depth after) :
    attach (depth, item) (children.map (fun child => (depth + 1, child)) ++ after) =
      (depth, ⟨item, children⟩) :: after := by
  have hDeeper : ∀ row ∈ children.map (fun child => (depth + 1, child)),
      decide (depth < row.1) = true := by simp
  simp [attach, List.takeWhile_append_of_pos hDeeper, List.dropWhile_append_of_pos hDeeper,
    h.takeWhile_eq_nil, h.dropWhile_eq_self, Function.comp_def]

/-- What a row of a listing shows of a subtree. -/
def itemRow (row : Nat × Tree α) : Nat × α := (row.1, row.2.item)

/-- Folding the rows of a tree puts the tree in front of what comes after it. -/
theorem foldr_attach_subtrees (tree : Tree α) (depth : Nat) {after : List (Nat × Tree α)}
    (h : StartsAbove depth after) :
    ((tree.subtrees depth).map itemRow).foldr attach after = (depth, tree) :: after := by
  induction tree using Tree.induction generalizing depth after with
  | node item children ih =>
    -- siblings stand at one depth, so each of them starts above what the one before it expects
    have each : ∀ trees : List (Tree α), (∀ tree ∈ trees, tree ∈ children) →
        ((subtreesEach (depth + 1) trees).map itemRow).foldr attach after =
          trees.map (fun child => (depth + 1, child)) ++ after := by
      intro trees
      induction trees with
      | nil => intro _; rfl
      | cons first rest ihRest =>
        intro hMem
        have hRest := ihRest fun tree hTree => hMem tree (List.mem_cons_of_mem _ hTree)
        have hAbove : StartsAbove (depth + 1)
            (rest.map (fun child => (depth + 1, child)) ++ after) := by
          intro row hRow
          cases rest with
          | nil => exact Nat.le_succ_of_le (h row hRow)
          | cons second others =>
            cases hRow
            exact Nat.le_refl _
        rw [subtreesEach, List.map_append, List.foldr_append, hRest]
        exact ih first (hMem first (List.mem_cons_self ..)) (depth + 1) hAbove
    rw [subtrees, List.map_cons, List.foldr_cons, each children fun _ hTree => hTree]
    exact attach_children depth item children h

/-- The tree of the rows of a tree is that tree. -/
theorem ofRows?_rows (tree : Tree α) : ofRows? tree.rows = some tree := by
  have hAbove : StartsAbove 0 ([] : List (Nat × Tree α)) := by
    intro row hRow
    cases hRow
  have hRows : tree.rows = (tree.subtrees 0).map itemRow := rfl
  rw [ofRows?, hRows, foldr_attach_subtrees tree 0 hAbove]

theorem rows_injective : Function.Injective (rows : Tree α → List (Nat × α)) := by
  intro s t h
  have hSame := congrArg ofRows? h
  rw [ofRows?_rows, ofRows?_rows] at hSame
  exact Option.some.inj hSame

/-! ## §2 Relabelling -/

theorem subtrees_map (f : α → β) (tree : Tree α) (depth : Nat) :
    (tree.map f).subtrees depth = (tree.subtrees depth).map fun row => (row.1, row.2.map f) := by
  induction tree using Tree.induction generalizing depth with
  | node item children ih =>
    have hBelow : children.flatMap (fun child => (child.map f).subtrees (depth + 1)) =
        children.flatMap fun child =>
          (child.subtrees (depth + 1)).map fun row => (row.1, row.2.map f) := by
      rw [List.flatMap_def, List.flatMap_def]
      congr 1
      apply List.map_congr_left
      intro child hChild
      exact ih child hChild (depth + 1)
    rw [subtrees_eq depth ⟨item, children⟩, subtrees_eq]
    simp only [Tree.map, mapEach_eq_map, List.flatMap_map, List.map_cons, List.map_flatMap, hBelow]

/-- Relabelling a tree relabels its rows and leaves the depths as they are. -/
theorem rows_map (f : α → β) (tree : Tree α) :
    (tree.map f).rows = tree.rows.map fun row => (row.1, f row.2) := by
  simp only [rows, subtrees_map, List.map_map]
  apply List.map_congr_left
  intro row _
  obtain ⟨depth, item, children⟩ := row
  simp [Tree.map]

end Outline.Tree
