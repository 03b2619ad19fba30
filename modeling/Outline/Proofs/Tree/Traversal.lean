import Outline.Proofs.Tree.Fold
import Outline.Tree.Rows

/-!
# Traversals

A visitor whose operations do something with their node and then go down to its children
traverses the tree. Which operations it has of its own does not matter: the traversal is the
fold of what it does with single nodes over the nodes in pre-order, up to the first failure.

- `Steps` — what a visitor does with single nodes
- `Tree.preorder` — the nodes of a tree in the order in which they are visited
- `Steps.visit_eq_fold` — a traversal is a fold
- `Steps.traversal_law` — data, state, error and visited nodes of every traversal
-/

namespace Outline

/-! ## §1 The nodes in pre-order -/

namespace Tree

variable {α : Type}

/-- The subtrees of a tree in pre-order, without their depths. -/
def preorder (tree : Tree α) : List (Tree α) := (tree.subtrees 0).map (·.2)

/-- The subtrees of the children come after the tree itself, one child after the other. -/
theorem map_snd_subtrees (tree : Tree α) (depth : Nat) :
    (tree.subtrees depth).map (·.2) = tree :: tree.children.flatMap preorder := by
  induction tree using Tree.induction generalizing depth with
  | node item children ih =>
    have each : ∀ trees : List (Tree α), (∀ tree ∈ trees, tree ∈ children) →
        (subtreesEach (depth + 1) trees).map (·.2) = trees.flatMap preorder := by
      intro trees
      induction trees with
      | nil => intro _; rfl
      | cons first rest ihRest =>
        intro h
        rw [List.forall_mem_cons] at h
        -- the depth at which a listing starts does not show in the subtrees
        have hFirst : (first.subtrees (depth + 1)).map (·.2) = first.preorder := by
          rw [preorder, ih first h.1, ih first h.1]
        rw [subtreesEach, List.map_append, hFirst, ihRest h.2, List.flatMap_cons]
    rw [subtrees, List.map_cons, each children fun _ h => h]

theorem preorder_eq (tree : Tree α) :
    tree.preorder = tree :: tree.children.flatMap preorder :=
  map_snd_subtrees tree 0

end Tree

/-! ## §2 Visitors made of steps -/

variable {σ ε δ : Type}

/-- What a visitor does with single nodes: a general step, and a step of its own for each
    specialized kind whose operation it has. -/
structure Steps (σ ε δ : Type) where
  node : Node → δ → Step σ ε δ
  start : Option (Node → δ → Step σ ε δ) := none
  add : Option (Node → δ → Step σ ε δ) := none
  multiply : Option (Node → δ → Step σ ε δ) := none
  identifier : Option (Node → δ → Step σ ε δ) := none
  integer : Option (Node → δ → Step σ ε δ) := none

namespace Steps

/-- The operation that runs a step on its node and goes down if that succeeds. -/
def descending (step : Node → δ → Step σ ε δ) : Operation σ ε δ :=
  fun node descend data state => Step.andThen (step node data state) descend

/-- The visitor with just the operations that there are steps for. -/
def visitor (steps : Steps σ ε δ) : Visitor σ ε δ :=
  let general : Visitor σ ε δ := { node := descending steps.node }
  { node := general.node
    start := (steps.start.map descending).getD general.start
    add := (steps.add.map descending).getD general.add
    multiply := (steps.multiply.map descending).getD general.multiply
    identifier := (steps.identifier.map descending).getD general.identifier
    integer := (steps.integer.map descending).getD general.integer }

/-- The step that is run on a node: that of its kind if there is one, else the general one. -/
def run (steps : Steps σ ε δ) (node : Node) : δ → Step σ ε δ :=
  match node.item with
  | .start => steps.start.getD steps.node node
  | .add => steps.add.getD steps.node node
  | .multiply => steps.multiply.getD steps.node node
  | .identifier _ => steps.identifier.getD steps.node node
  | .integer _ => steps.integer.getD steps.node node
  | .other _ => steps.node node

/-- Each kind is handed to the operation that runs the step for its nodes. -/
theorem operation_visitor (steps : Steps σ ε δ) (node : Node) (descend : δ → Step σ ε δ)
    (data : δ) (state : σ) :
    steps.visitor.operation node.item node descend data state =
      Step.andThen (steps.run node data state) descend := by
  unfold run
  cases node.item <;> simp only [visitor, Visitor.operation, Option.getD_map] <;> rfl

/-! ## §3 Traversals are folds -/

/-- Visiting trees one after the other is the fold over all their nodes, if visiting each
    is. -/
theorem visitEach_eq_fold_of_visit (steps : Steps σ ε δ) (nodes : List Node)
    (h : ∀ node ∈ nodes, ∀ (data : δ) (state : σ),
      steps.visitor.visit node data state = Step.fold steps.run node.preorder data state)
    (data : δ) (state : σ) :
    steps.visitor.visitEach nodes data state =
      Step.fold steps.run (nodes.flatMap Tree.preorder) data state := by
  rw [Visitor.visitEach_eq_fold]
  induction nodes generalizing data state with
  | nil => rfl
  | cons first rest ih =>
    rw [List.forall_mem_cons] at h
    have hRest : Step.fold steps.visitor.visit rest =
        Step.fold steps.run (rest.flatMap Tree.preorder) := by
      funext data state
      exact ih h.2 data state
    rw [Step.fold_cons, h.1, hRest, List.flatMap_cons, Step.fold_append]

/-- A visit runs the steps of the nodes in pre-order. -/
theorem visit_eq_fold (steps : Steps σ ε δ) (root : Node) (data : δ) (state : σ) :
    steps.visitor.visit root data state = Step.fold steps.run root.preorder data state := by
  induction root using Tree.induction generalizing data state with
  | node kind children ih =>
    have hChildren : steps.visitor.visitEach children =
        Step.fold steps.run (children.flatMap Tree.preorder) := by
      funext data state
      exact visitEach_eq_fold_of_visit steps children ih data state
    rw [Visitor.visit, Tree.preorder_eq, Step.fold_cons, ← hChildren]
    exact operation_visitor steps ⟨kind, children⟩ _ data state

theorem visitEach_eq_fold (steps : Steps σ ε δ) (nodes : List Node) (data : δ) (state : σ) :
    steps.visitor.visitEach nodes data state =
      Step.fold steps.run (nodes.flatMap Tree.preorder) data state :=
  visitEach_eq_fold_of_visit steps nodes (fun node _ => visit_eq_fold steps node) data state

/-! ## §4 The nodes that are visited -/

/-- A step that adds its node to a list of the nodes that were visited. -/
def recording (step : Node → δ → Step σ ε δ) (node : Node) (data : δ) :
    Step (σ × List Node) ε δ := fun (state, visited) =>
  let result := step node data state
  (result.1, (result.2, visited ++ [node]))

/-- The same steps, which also list the nodes that are visited. -/
def recorded (steps : Steps σ ε δ) : Steps (σ × List Node) ε δ where
  node := recording steps.node
  start := steps.start.map recording
  add := steps.add.map recording
  multiply := steps.multiply.map recording
  identifier := steps.identifier.map recording
  integer := steps.integer.map recording

theorem run_recorded (steps : Steps σ ε δ) (node : Node) (data : δ) (state : σ)
    (visited : List Node) :
    steps.recorded.run node data (state, visited) =
      ((steps.run node data state).1, ((steps.run node data state).2, visited ++ [node])) := by
  simp only [run, recorded]
  cases node.item <;> simp only [Option.getD_map] <;> rfl

/-- A fold lists all nodes if it succeeds, and otherwise those up to the one that failed. -/
theorem fold_recorded (steps : Steps σ ε δ) (nodes : List Node) (data : δ) (state : σ)
    (visited : List Node) :
    let plain := Step.fold steps.run nodes data state
    ∃ list, Step.fold steps.recorded.run nodes data (state, visited) =
        (plain.1, (plain.2, visited ++ list)) ∧
      ((∃ result, plain.1 = .ok result ∧ list = nodes) ∨
        ∃ before node after data' state' error,
          nodes = before ++ node :: after ∧ list = before ++ [node] ∧
          Step.fold steps.run before data state = (.ok data', state') ∧
          steps.run node data' state' = (.error error, plain.2) ∧ plain.1 = .error error) := by
  induction nodes generalizing data state visited with
  | nil => exact ⟨[], by simp, .inl ⟨data, rfl, rfl⟩⟩
  | cons first rest ih =>
    simp only [Step.fold_cons, run_recorded]
    cases hFirst : steps.run first data state with
    | mk result left =>
      cases result with
      | error error =>
        -- nothing behind the first node is visited
        refine ⟨[first], rfl, .inr ?_⟩
        exact ⟨[], first, rest, data, state, error, rfl, rfl, rfl, hFirst, rfl⟩
      | ok next =>
        simp only [Step.andThen_ok]
        obtain ⟨list, hList, hEnd⟩ := ih next left (visited ++ [first])
        refine ⟨first :: list, by rw [hList, List.append_assoc]; rfl, ?_⟩
        rcases hEnd with ⟨result, hResult, rfl⟩ |
          ⟨before, node, after, data', state', error, rfl, rfl, hBefore, hNode, hError⟩
        · exact .inl ⟨result, hResult, rfl⟩
        · refine .inr ⟨first :: before, node, after, data', state', error, rfl, rfl, ?_, hNode,
            hError⟩
          rw [Step.fold_cons, hFirst, Step.andThen_ok, hBefore]

/-- **Law of traversals.** Whichever operations a visitor has of its own, a visit is the left
    fold of its steps over the nodes in pre-order, with a stop at the first failure. The
    children of a node from some position on start with the data and the state that the whole
    subtrees of those before them leave. The nodes that are visited are all of them if the visit
    succeeds, and else those up to the first one whose step fails, with whose error and state the
    visit ends. -/
theorem traversal_law (steps : Steps σ ε δ) (root : Node) (data : δ) (state : σ) :
    let visit := steps.visitor.visit root data state
    let recorded := steps.recorded.visitor.visit root data (state, [])
    visit = Step.fold steps.run root.preorder data state ∧
    (∀ before after : List Node,
      steps.visitor.visitEach (before ++ after) data state =
        Step.andThen (Step.fold steps.run (before.flatMap Tree.preorder) data state)
          (steps.visitor.visitEach after)) ∧
    (recorded.1, recorded.2.1) = visit ∧
    ((∃ result, visit.1 = .ok result ∧ recorded.2.2 = root.preorder) ∨
      ∃ before node after data' state' error,
        root.preorder = before ++ node :: after ∧ recorded.2.2 = before ++ [node] ∧
        Step.fold steps.run before data state = (.ok data', state') ∧
        steps.run node data' state' = (.error error, visit.2) ∧ visit.1 = .error error) := by
  intro visit recorded
  have hVisit : visit = Step.fold steps.run root.preorder data state :=
    visit_eq_fold steps root data state
  obtain ⟨list, hList, hEnd⟩ := fold_recorded steps root.preorder data state []
  have hRecorded : recorded = (visit.1, (visit.2, list)) := by
    rw [hVisit]
    exact (visit_eq_fold steps.recorded root data (state, [])).trans hList
  refine ⟨hVisit, ?_, by rw [hRecorded], ?_⟩
  · intro before after
    have hAfter : steps.visitor.visitEach after =
        Step.fold steps.run (after.flatMap Tree.preorder) := by
      funext data state
      exact visitEach_eq_fold steps after data state
    rw [visitEach_eq_fold, List.flatMap_append, Step.fold_append, hAfter]
  · rw [hRecorded, hVisit]
    exact hEnd

end Steps

end Outline
