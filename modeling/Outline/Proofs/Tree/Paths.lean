import Mathlib.Data.List.Infix
import Mathlib.Data.List.Nodup
import Outline.Proofs.Tree.Basic

/-!
# Paths in trees

A path leads from the root of a tree to one of its nodes: each number on it is the position of
a child, counted from zero. The nodes above the end of a path are those that its beginnings lead
to, so what a node has to do with its ancestors can be said by its path.

- `Tree.at?`, `Tree.paths` — where a path leads, and all paths of a tree in pre-order
- `Tree.map_paths` — paths list the nodes of a tree in pre-order, with their depths
- `Tree.isLastChild`, `Tree.lasts` — last children, at the end of a path and on the way to it
- `Tree.lasts_cons` — the way to a node below a child
- `Tree.nodup_paths`, `Tree.getElem?_paths_add` — where the nodes of a subtree are listed
- `Tree.exists_getElem?_paths_below` — descendants are listed behind their ancestors
-/

namespace Outline.Tree

variable {α β : Type}

/-! ## §1 Where paths lead -/

/-- The subtree that a path leads to, if it does not leave the tree. -/
def at? (tree : Tree α) : List Nat → Option (Tree α)
  | [] => some tree
  | position :: path => tree.children[position]?.bind (·.at? path)

mutual
/-- The paths to all nodes in pre-order. -/
def paths : Tree α → List (List Nat)
  | ⟨_, children⟩ => [] :: pathsFrom 0 children

/-- The paths to all nodes of the trees of a list, the first of which has a given position. -/
def pathsFrom (position : Nat) : List (Tree α) → List (List Nat)
  | [] => []
  | tree :: rest => tree.paths.map (position :: ·) ++ pathsFrom (position + 1) rest
end

@[simp] theorem at?_nil (tree : Tree α) : tree.at? [] = some tree := rfl

theorem at?_cons {tree child : Tree α} {position : Nat}
    (h : tree.children[position]? = some child) (path : List Nat) :
    tree.at? (position :: path) = child.at? path := by
  simp [at?, h]

theorem pathsFrom_eq (position : Nat) (trees : List (Tree α)) :
    pathsFrom position trees =
      (trees.zipIdx position).flatMap fun child => child.1.paths.map (child.2 :: ·) := by
  induction trees generalizing position with
  | nil => rfl
  | cons first rest ih => rw [pathsFrom, ih, List.zipIdx_cons, List.flatMap_cons]

/-- The path to the root comes first, then the paths through each child in turn. -/
theorem map_paths_eq (f : List Nat → β) (tree : Tree α) :
    tree.paths.map f = f [] :: tree.children.zipIdx.flatMap fun child =>
      child.1.paths.map fun path => f (child.2 :: path) := by
  obtain ⟨item, children⟩ := tree
  simp [paths, pathsFrom_eq, List.map_flatMap, Function.comp_def]

/-- The paths of a tree lead to its nodes in pre-order, and are as long as these are deep. -/
theorem map_paths (tree : Tree α) (depth : Nat) :
    tree.paths.map (fun path => (depth + path.length, tree.at? path)) =
      (tree.subtrees depth).map fun row => (row.1, some row.2) := by
  induction tree using Tree.induction generalizing depth with
  | node item children ih =>
    -- the positions of the children play no part in the listing of their subtrees
    have hPositions : children.flatMap (subtrees (depth + 1)) =
        children.zipIdx.flatMap fun child => child.1.subtrees (depth + 1) := by
      rw [← List.flatMap_map Prod.fst, List.zipIdx_map_fst]
    rw [map_paths_eq, subtrees_eq, hPositions, List.map_cons, List.map_flatMap]
    congr 1
    apply List.flatMap_congr
    intro child hChild
    have hAt := List.mem_zipIdx_iff_getElem?.mp hChild
    rw [← ih child.1 (List.mem_of_getElem? hAt) (depth + 1)]
    apply List.map_congr_left
    intro path _
    rw [at?_cons hAt, List.length_cons, Nat.add_assoc, Nat.add_comm 1]

/-- Every path of a tree leads to a node that the tree lists. -/
theorem exists_of_mem_paths {tree : Tree α} {path : List Nat} (h : path ∈ tree.paths) :
    ∃ node, tree.at? path = some node ∧ (path.length, node) ∈ tree.subtrees 0 := by
  have hMem : (0 + path.length, tree.at? path) ∈
      (tree.subtrees 0).map fun row => (row.1, some row.2) := by
    rw [← map_paths]
    exact List.mem_map_of_mem h
  obtain ⟨row, hRow, hSame⟩ := List.mem_map.mp hMem
  obtain ⟨hDepth, hNode⟩ := Prod.mk.inj hSame
  refine ⟨row.2, hNode.symm, ?_⟩
  rwa [← Nat.zero_add path.length, ← hDepth]

/-! ## §2 Last children -/

/-- Whether a path ends at the last child of a node. -/
def isLastChild (tree : Tree α) (path : List Nat) : Bool :=
  match tree.at? path.dropLast, path.getLast? with
  | some parent, some position => position + 1 == parent.children.length
  | _, _ => false

/-- For each node on the way along a path, the root left out, whether it is a last child. -/
def lasts (tree : Tree α) (path : List Nat) : List Bool := path.inits.tail.map tree.isLastChild

theorem isLastChild_singleton (tree : Tree α) (position : Nat) :
    tree.isLastChild [position] = (position + 1 == tree.children.length) := by
  simp [isLastChild]

theorem isLastChild_cons_cons {tree child : Tree α} {position : Nat}
    (h : tree.children[position]? = some child) (next : Nat) (path : List Nat) :
    tree.isLastChild (position :: next :: path) = child.isLastChild (next :: path) := by
  simp [isLastChild, at?_cons h]

@[simp] theorem lasts_nil (tree : Tree α) : tree.lasts [] = [] := rfl

/-- The way to a node below a child leads over the child first. -/
theorem lasts_cons {tree child : Tree α} {position : Nat}
    (h : tree.children[position]? = some child) (path : List Nat) :
    tree.lasts (position :: path) =
      (position + 1 == tree.children.length) :: child.lasts path := by
  cases path with
  | nil => simp [lasts, isLastChild_singleton]
  | cons next rest =>
    simp [lasts, isLastChild_singleton, isLastChild_cons_cons h, Function.comp_def]

/-- The way to a node ends with the node itself. -/
theorem lasts_eq_append (tree : Tree α) {path : List Nat} (h : path ≠ []) :
    tree.lasts path = path.dropLast.inits.tail.map tree.isLastChild ++ [tree.isLastChild path] := by
  have hInits (parent : List Nat) (position : Nat) :
      (parent ++ [position]).inits.tail = parent.inits.tail ++ [parent ++ [position]] := by
    cases parent <;> simp [List.inits_append]
  rw [lasts, ← List.dropLast_append_getLast h, hInits]
  simp

@[simp] theorem length_lasts (tree : Tree α) (path : List Nat) :
    (tree.lasts path).length = path.length := by
  simp [lasts]

/-! ## §3 Nodes below a node -/

/-- A path leads to a node by its beginning, and on from there by the rest. -/
theorem at?_append (tree : Tree α) (path below : List Nat) :
    tree.at? (path ++ below) = (tree.at? path).bind (·.at? below) := by
  induction path generalizing tree with
  | nil => rfl
  | cons position rest ih =>
    rw [List.cons_append, at?, at?, Option.bind_assoc]
    congr 1
    funext child
    exact ih child

theorem paths_eq (tree : Tree α) :
    tree.paths = [] :: tree.children.zipIdx.flatMap fun child =>
      child.1.paths.map (child.2 :: ·) := by
  simpa using map_paths_eq id tree

@[simp] theorem length_paths (tree : Tree α) : tree.paths.length = tree.count := by
  have hLength := congrArg List.length (tree.map_paths 0)
  rwa [List.length_map, List.length_map, length_subtrees] at hLength

/-- The paths to the nodes of a subtree stand together, the path to its root first. -/
theorem exists_paths_eq_append {tree node : Tree α} {path : List Nat}
    (h : tree.at? path = some node) :
    ∃ before after, tree.paths = before ++ (node.paths.map (path ++ ·) ++ after) := by
  induction path generalizing tree with
  | nil =>
    cases h
    exact ⟨[], [], by simp⟩
  | cons position rest ih =>
    obtain ⟨child, hChild, hNode⟩ := Option.bind_eq_some_iff.mp h
    obtain ⟨before, after, hPaths⟩ := ih hNode
    -- the subtree lies in that of one child, which has others on both sides
    have hMem : (child, position) ∈ tree.children.zipIdx :=
      List.mem_zipIdx_iff_getElem?.mpr hChild
    obtain ⟨left, right, hSplit⟩ := List.append_of_mem hMem
    let through (child : Tree α × Nat) : List (List Nat) := child.1.paths.map (child.2 :: ·)
    refine ⟨[] :: (left.flatMap through ++ before.map (position :: ·)),
      after.map (position :: ·) ++ right.flatMap through, ?_⟩
    rw [paths_eq, hSplit, List.flatMap_append, List.flatMap_cons, hPaths]
    simp [through, Function.comp_def]

/-- No path is listed twice. -/
theorem nodup_paths (tree : Tree α) : tree.paths.Nodup := by
  induction tree using Tree.induction with
  | node item children ih =>
    have hPositions : (children.zipIdx.map Prod.snd).Nodup := by
      rw [List.zipIdx_map_snd]
      exact List.nodup_range'
    rw [paths_eq, List.nodup_cons, List.nodup_flatMap]
    refine ⟨by simp, ?_, ?_⟩
    · intro child hChild
      have hMem := List.mem_of_getElem? (List.mem_zipIdx_iff_getElem?.mp hChild)
      exact (ih child.1 hMem).map fun _ _ hSame => (List.cons.inj hSame).2
    · -- paths through different children begin with different positions
      apply (List.pairwise_map.mp hPositions).imp
      intro child other hNe path hPath hOther
      obtain ⟨_, -, rfl⟩ := List.mem_map.mp hPath
      obtain ⟨_, -, hSame⟩ := List.mem_map.mp hOther
      exact hNe (List.cons.inj hSame).1.symm

/-- A path that does not leave the tree is listed. -/
theorem exists_getElem?_paths {tree node : Tree α} {path : List Nat}
    (h : tree.at? path = some node) : ∃ i : Nat, tree.paths[i]? = some path := by
  obtain ⟨before, after, hPaths⟩ := exists_paths_eq_append h
  apply List.getElem?_of_mem
  rw [hPaths, paths_eq node]
  simp

/-- The nodes of a subtree are listed from its root on as the subtree lists them. -/
theorem getElem?_paths_add {tree node : Tree α} {path below : List Nat} {i offset : Nat}
    (hPath : tree.paths[i]? = some path) (hNode : tree.at? path = some node)
    (hBelow : node.paths[offset]? = some below) :
    tree.paths[i + offset]? = some (path ++ below) := by
  obtain ⟨before, after, hPaths⟩ := exists_paths_eq_append hNode
  have hInside {place : Nat} {found : List Nat} (hFound : node.paths[place]? = some found) :
      tree.paths[before.length + place]? = some (path ++ found) := by
    have hLt := (List.getElem?_eq_some_iff.mp hFound).1
    rw [hPaths, List.getElem?_append_right (Nat.le_add_right _ _), Nat.add_sub_cancel_left,
      List.getElem?_append_left (by simpa using hLt), List.getElem?_map, hFound]
    rfl
  -- the root of the subtree is listed once, so the two places are the same
  have hRoot : tree.paths[before.length]? = some path := by
    have hFirst : node.paths[0]? = some [] := by rw [paths_eq]; rfl
    simpa using hInside hFirst
  have hPlace : i = before.length := by
    have hLt := (List.getElem?_eq_some_iff.mp hPath).1
    exact (List.getElem?_inj hLt tree.nodup_paths).mp (hPath.trans hRoot.symm)
  rw [hPlace]
  exact hInside hBelow

/-- Behind a node all its descendants are listed before any other node, and each of them stands
    behind its own parent. -/
theorem exists_getElem?_paths_below {tree node below : Tree α} {path way : List Nat}
    {i position : Nat} (hPath : tree.paths[i]? = some path) (hNode : tree.at? path = some node)
    (hBelow : node.at? (way ++ [position]) = some below) :
    ∃ k j : Nat, i ≤ k ∧ k < j ∧ j < i + node.count ∧ tree.paths[k]? = some (path ++ way) ∧
      tree.paths[j]? = some (path ++ (way ++ [position])) := by
  rw [at?_append, Option.bind_eq_some_iff] at hBelow
  obtain ⟨parent, hParent, hChild⟩ := hBelow
  obtain ⟨above, hAbove⟩ := exists_getElem?_paths hParent
  obtain ⟨step, hStep⟩ := exists_getElem?_paths hChild
  have hPositive : 0 < step := by
    rcases Nat.eq_zero_or_pos step with rfl | hPositive
    · rw [paths_eq] at hStep
      cases hStep
    · exact hPositive
  have hBehind := getElem?_paths_add hAbove hParent hStep
  have hLt := (List.getElem?_eq_some_iff.mp hBehind).1
  rw [length_paths] at hLt
  exact ⟨i + above, i + (above + step), by omega, by omega, by omega,
    getElem?_paths_add hPath hNode hAbove, getElem?_paths_add hPath hNode hBehind⟩

end Outline.Tree
