import Outline.Format.Treeviz
import Outline.Proofs.Tree.Paths

/-!
# Box drawings, node by node

A drawing is made by two functions that call each other and hand the rails of the ancestors down
as a text. Here each node has a record of its own, which its path tells: a cell for each ancestor
below the root, a branch for the node itself, and the caption. The drawing is the records of all
nodes in pre-order.

- `Treeviz.record` — the record of the node at a path
- `Treeviz.lead` — what stands in front of a caption, by last children on the way to the node
- `Treeviz.child_eq`, `Treeviz.drawing_eq` — the recursion in terms of paths
- `Node.drawing_eq_records` — a drawing is the records of its nodes
-/

namespace Outline.Treeviz

/-! ## §1 Records -/

/-- A label of more than thirty characters is shown by its first thirty and three dots. -/
def shown (label : String) : String :=
  if label.length ≤ 30 then label else String.ofList (label.toList.take 30) ++ "..."

/-- The record of the node at a path. The root has only its icon and its label. For any other
    node there is a cell for each ancestor below the root first, the outermost to the left, then
    the branch of the node. -/
def record (root : Node) (path : List Nat) : String :=
  match root.at? path with
  | none => ""
  | some node =>
    let text := icon node.item ++ " " ++ shown node.item.label ++ "\n"
    if path = [] then text
    else
      -- the beginnings of the path to the parent lead to the ancestors
      String.join (path.dropLast.inits.tail.map fun ancestor =>
          if root.isLastChild ancestor then "  " else "│ ")
        ++ (if root.isLastChild path then "└─" else "├─") ++ " " ++ text

theorem shorten_labelWidth (label : String) : shorten labelWidth label = shown label := by
  simp only [shorten, shown, labelWidth, String.length_toList]
  by_cases h : label.length ≤ 30
  · rw [if_pos h, if_neg (Nat.not_lt.mpr h)]
  · rw [if_neg h, if_pos (Nat.not_le.mp h)]

/-! ## §2 What stands in front of a caption -/

/-- A rail for each node on the way but the last, which has a connector. -/
def lead : List Bool → String
  | [] => ""
  | [isLast] => connector isLast ++ " "
  | isLast :: next :: rest => rail isLast ++ lead (next :: rest)

theorem lead_cons_of_ne_nil (isLast : Bool) {rest : List Bool} (h : rest ≠ []) :
    lead (isLast :: rest) = rail isLast ++ lead rest := by
  cases rest with
  | nil => exact absurd rfl h
  | cons next rest => rfl

theorem lead_append_singleton (before : List Bool) (isLast : Bool) :
    lead (before ++ [isLast]) = String.join (before.map rail) ++ connector isLast ++ " " := by
  induction before with
  | nil => simp [lead]
  | cons first rest ih =>
    rw [List.cons_append, lead_cons_of_ne_nil _ (by simp), ih]
    simp [String.append_assoc]

/-- The record of a node is its caption behind what the way to it tells. -/
theorem record_eq {root node : Node} {path : List Nat} (h : root.at? path = some node) :
    record root path = lead (root.lasts path) ++ caption node.item := by
  by_cases hRoot : path = []
  · subst hRoot
    cases h
    simp [record, lead, caption, shorten_labelWidth]
  · rw [Tree.lasts_eq_append root hRoot, lead_append_singleton]
    simp [record, h, hRoot, caption, shorten_labelWidth, connector, rail, Function.comp_def,
      String.append_assoc]

/-! ## §3 The recursion -/

/-- The caption of the node at a path. -/
def captionAt (root : Node) (path : List Nat) : String :=
  (root.at? path).elim "" fun node => caption node.item

theorem captionAt_cons {node below : Node} {position : Nat}
    (h : node.children[position]? = some below) (path : List Nat) :
    captionAt node (position :: path) = captionAt below path := by
  simp [captionAt, Tree.at?_cons h]

/-- A child is the last one if its position is. -/
theorem children_eq_join (rails : String) (nodes : List Node) (position : Nat) :
    children rails nodes = String.join ((nodes.zipIdx position).map fun node =>
      child rails (node.2 + 1 == position + nodes.length) node.1) := by
  induction nodes generalizing position with
  | nil => rfl
  | cons first rest ih =>
    have hLast : (position + 1 == position + (first :: rest).length) = rest.isEmpty := by
      cases rest <;> simp
    have hLength : position + 1 + rest.length = position + (first :: rest).length := by
      simp only [List.length_cons]
      omega
    rw [children, ih (position + 1), hLength, List.zipIdx_cons, List.map_cons, String.join_cons,
      hLast]

theorem join_flatMap {α : Type} (texts : α → List String) (elements : List α) :
    String.join (elements.flatMap texts) =
      String.join (elements.map fun element => String.join (texts element)) := by
  induction elements with
  | nil => rfl
  | cons first rest ih => simp [ih]

/-- The lines below a node are those of the paths through its children, if the lines of each
    child are those of its own paths. -/
theorem children_eq_of_child (node : Node)
    (h : ∀ below ∈ node.children, ∀ rails isLast, child rails isLast below =
      String.join (below.paths.map fun path =>
        rails ++ lead (isLast :: below.lasts path) ++ captionAt below path)) (rails : String) :
    children rails node.children = String.join (node.children.zipIdx.flatMap fun below =>
      below.1.paths.map fun path =>
        rails ++ lead (node.lasts (below.2 :: path)) ++ captionAt node (below.2 :: path)) := by
  rw [children_eq_join rails node.children 0, join_flatMap]
  congr 1
  apply List.map_congr_left
  intro below hBelow
  have hAt := List.mem_zipIdx_iff_getElem?.mp hBelow
  rw [h below.1 (List.mem_of_getElem? hAt), Nat.zero_add]
  congr 1
  apply List.map_congr_left
  intro path _
  rw [Tree.lasts_cons hAt, captionAt_cons hAt]

/-- The lines of a child are those of its paths, behind the rails it was given. -/
theorem child_eq (node : Node) (rails : String) (isLast : Bool) :
    child rails isLast node = String.join (node.paths.map fun path =>
      rails ++ lead (isLast :: node.lasts path) ++ captionAt node path) := by
  induction node using Tree.induction generalizing rails isLast with
  | node kind below ih =>
    -- below the child, its own rail comes between the rails it was given and the others
    have hRail (path : List Nat) (position : Nat) :
        rails ++ lead (isLast :: Tree.lasts ⟨kind, below⟩ (position :: path)) =
          rails ++ rail isLast ++ lead (Tree.lasts ⟨kind, below⟩ (position :: path)) := by
      rw [lead_cons_of_ne_nil, String.append_assoc]
      apply List.ne_nil_of_length_pos
      simp
    rw [child, Tree.map_paths_eq, String.join_cons,
      children_eq_of_child ⟨kind, below⟩ ih (rails ++ rail isLast)]
    simp [hRail, lead, captionAt, String.append_assoc]

theorem drawing_eq (root : Node) :
    root.drawing = String.join (root.paths.map fun path =>
      lead (root.lasts path) ++ captionAt root path) := by
  rw [Node.drawing, Tree.map_paths_eq, String.join_cons,
    children_eq_of_child root (fun below _ => child_eq below)]
  simp [lead, captionAt]

end Outline.Treeviz

namespace Outline

/-- **Box drawings, node by node.** A drawing is the records of all nodes, one after the other,
    in the order in which the paths of the tree list them. This is the pre-order, and a path is
    as long as the node it leads to is deep. -/
theorem Node.drawing_eq_records (root : Node) :
    root.drawing = String.join (root.paths.map (Treeviz.record root)) ∧
      root.paths.map (fun path => (path.length, root.at? path)) =
        (root.subtrees 0).map fun row => (row.1, some row.2) := by
  constructor
  · rw [Treeviz.drawing_eq]
    congr 1
    apply List.map_congr_left
    intro path hPath
    obtain ⟨node, hNode, -⟩ := Tree.exists_of_mem_paths hPath
    rw [Treeviz.record_eq hNode, Treeviz.captionAt, hNode, Option.elim_some]
  · simpa using root.map_paths 0

/-- A child that is not the last one leaves a rail for the nodes below it. -/
example : Node.drawing ⟨.start, [⟨.add, [⟨.multiply, []⟩]⟩, ⟨.other "x", []⟩]⟩ =
    "⧉ Start\n├─ + Add\n│ └─ × Multiply\n└─ ○ x\n" := by
  rfl

end Outline
