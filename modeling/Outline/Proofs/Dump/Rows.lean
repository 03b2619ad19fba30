import Outline.Dump.Dumper
import Outline.Proofs.Tree.Fold

/-!
# The dump as a fold over rows

A dump is a recursive visit that counts levels up and down and stops at the first failure,
wherever it is. Here the visit is shown to be a fold over a flat list: the nodes in
pre-order, each with its depth, where every row either is too deep or writes one line.

- `DumpRow` — a node of the listing, with its depth and its mark
- `DumpRow.write` — what one row does to the sink
- `Dumper.perform_eq_fold`, `Dumper.visit_eq_fold` — operations and visits are folds over rows
- `Dumper.visit_refines_rows` — result, sink, depth and lines of a visit, read off the rows
-/

namespace Outline

variable {σ δ : Type}

/-! ## §1 Rows -/

/-- A node in the listing that a dump follows. -/
structure DumpRow where
  depth : Nat
  node : Node
  /-- Whether the line says that the node has no operation of its own. -/
  marked : Bool

namespace DumpRow

/-- The row of a node that is marked according to its kind. -/
def ofNode (depth : Nat) (node : Node) : DumpRow := ⟨depth, node, !node.item.isSpecialized⟩

/-- The unit once per level, the label, and the mark. -/
def line (unit : String) (row : DumpRow) : String :=
  String.join (List.replicate row.depth unit) ++ row.node.label
    ++ (if row.marked then fallbackSuffix else "")

/-- Hands the line of a row to the sink and passes the data on. -/
def emit (sink : LineSink σ) (options : DumpOptions) (row : DumpRow) (data : δ) :
    Step σ DumpError δ := fun state =>
  let emitted := sink.emit (row.line options.indentUnit) state
  (emitted.1.map fun () => data, emitted.2)

/-- What a row does to the sink: nothing if it is too deep, and otherwise one line. -/
def write (sink : LineSink σ) (options : DumpOptions) (row : DumpRow) (data : δ) :
    Step σ DumpError δ := fun state =>
  match options.maxDepth with
  | some limit =>
    if limit < row.depth then (.error (.tooDeep row.depth limit), state)
    else row.emit sink options data state
  | none => row.emit sink options data state

/-- A marked row is reported, whatever becomes of its line. -/
def notices (row : DumpRow) : List Notice :=
  if row.marked then [.unhandledKind row.node.item.name] else []

/-- What a row does to a dumper. The counter of the dumper plays no part in it. -/
def visit (sink : LineSink σ) (options : DumpOptions) (row : DumpRow) (data : δ) :
    Step (Dumper σ) DumpError δ := fun dumper =>
  let written := row.write sink options data dumper.sink
  (written.1, { dumper with sink := written.2, notices := dumper.notices ++ row.notices })

end DumpRow

/-- The rows of a list of trees whose roots stand at `depth`. -/
def dumpRowsEach (depth : Nat) (nodes : List Node) : List DumpRow :=
  (Tree.subtreesEach depth nodes).map fun (depth, node) => .ofNode depth node

/-- The rows of a tree whose root stands at `depth`. -/
def Node.dumpRows (depth : Nat) (root : Node) : List DumpRow :=
  (root.subtrees depth).map fun (depth, node) => .ofNode depth node

@[simp] theorem dumpRowsEach_nil (depth : Nat) : dumpRowsEach depth [] = [] := rfl

@[simp] theorem dumpRowsEach_cons (depth : Nat) (first : Node) (rest : List Node) :
    dumpRowsEach depth (first :: rest) = first.dumpRows depth ++ dumpRowsEach depth rest := by
  simp only [dumpRowsEach, Node.dumpRows, Tree.subtreesEach, List.map_append]

/-- The row of the root comes first, then the rows of the children one level deeper. -/
theorem Node.dumpRows_eq (depth : Nat) (root : Node) :
    root.dumpRows depth = .ofNode depth root :: dumpRowsEach (depth + 1) root.children := by
  obtain ⟨kind, children⟩ := root
  simp only [Node.dumpRows, dumpRowsEach, Tree.subtrees, List.map_cons]

/-- There is one row for each node. -/
theorem Node.length_dumpRows (depth : Nat) (root : Node) :
    (root.dumpRows depth).length = root.count := by
  simp only [Node.dumpRows, List.length_map, Tree.length_subtrees]

/-! ## §2 Visits are folds over rows -/

namespace Dumper

variable (sink : LineSink σ) (options : DumpOptions)

/-- The operation that writes a node, with or without the mark. -/
def writing (marked : Bool) : Operation (Dumper σ) DumpError δ :=
  if marked then writeFallback sink options else write sink options ""

/-- The operation of a kind marks exactly the kinds without one of their own. -/
theorem operation_visitor (kind : Kind) :
    (visitor sink options : Visitor (Dumper σ) DumpError δ).operation kind =
      writing sink options (!kind.isSpecialized) := by
  cases kind <;> rfl

/-- Goes down one level and comes back, whether that succeeds or not. -/
def below (descend : δ → Step (Dumper σ) DumpError δ) (data : δ) :
    Step (Dumper σ) DumpError δ := fun dumper =>
  let visited := descend data { dumper with depth := dumper.depth + 1 }
  (visited.1, { visited.2 with depth := visited.2.depth - 1 })

/-- Writing a node with the text of its mark is the row of the node at the current depth,
    then what is below. -/
theorem write_eq (marked : Bool) (node : Node) (descend : δ → Step (Dumper σ) DumpError δ)
    (data : δ) (dumper : Dumper σ) :
    write sink options (if marked then fallbackSuffix else "") node descend data dumper =
      Step.andThen
        (((⟨dumper.depth, node, marked⟩ : DumpRow).write sink options data dumper.sink).map id
          fun state => { dumper with sink := state })
        (below descend) := by
  -- the two ways not to be too deep, without a limit and within one, write the same line
  have emitted (hDepth : options.exceeded? dumper.depth = none) :
      write sink options (if marked then fallbackSuffix else "") node descend data dumper =
        Step.andThen
          (((⟨dumper.depth, node, marked⟩ : DumpRow).emit sink options data dumper.sink).map id
            fun state => { dumper with sink := state })
          (below descend) := by
    simp only [write, hDepth, DumpRow.emit, DumpRow.line, DumpOptions.indentation]
    obtain ⟨error | _, state⟩ := sink.emit _ dumper.sink <;> rfl
  cases hLimit : options.maxDepth with
  | none =>
    have hDepth : options.exceeded? dumper.depth = none := by
      simp only [DumpOptions.exceeded?, hLimit, Option.filter_none]
    simp only [emitted hDepth, DumpRow.write, hLimit]
  | some limit =>
    by_cases hDeep : limit < dumper.depth
    · -- the row is too deep, and neither side touches the sink
      simp only [write, DumpRow.write, DumpOptions.exceeded?, hLimit, Option.filter_some, hDeep,
        decide_true, if_true]
      rfl
    · have hDepth : options.exceeded? dumper.depth = none := by
        simp only [DumpOptions.exceeded?, hLimit, Option.filter_some, hDeep, decide_false,
          Bool.false_eq_true, if_false]
      simp only [emitted hDepth, DumpRow.write, hLimit, hDeep, if_false]

/-- One step of the visit: the row of the node at the current depth, then what is below. -/
theorem writing_eq (marked : Bool) (node : Node) (descend : δ → Step (Dumper σ) DumpError δ)
    (data : δ) (dumper : Dumper σ) :
    writing sink options marked node descend data dumper =
      Step.andThen (DumpRow.visit sink options ⟨dumper.depth, node, marked⟩ data dumper)
        (below descend) := by
  cases marked with
  | false =>
    have h := write_eq sink options false node descend data dumper
    simp only [writing, DumpRow.visit, DumpRow.notices, List.append_nil, if_false,
      Bool.false_eq_true] at h ⊢
    exact h
  | true =>
    -- the notice comes first, so the row starts from a dumper that has it already
    have h := write_eq sink options true node descend data
      { dumper with notices := dumper.notices ++ [.unhandledKind node.item.name] }
    simp only [writing, writeFallback, DumpRow.visit, DumpRow.notices, if_true] at h ⊢
    exact h

/-- A fold over rows does not look at the counter. -/
theorem fold_rows_atDepth (rows : List DumpRow) (data : δ) (dumper : Dumper σ) (depth : Nat) :
    Step.fold (DumpRow.visit sink options) rows data { dumper with depth } =
      ((Step.fold (DumpRow.visit sink options) rows data dumper).1,
        { (Step.fold (DumpRow.visit sink options) rows data dumper).2 with depth }) :=
  Step.fold_project (fun dumper : Dumper σ => { dumper with depth }) (fun _ _ _ => rfl) rows
    data dumper

/-- A fold over rows leaves the counter as it was. -/
theorem fold_rows_depth (rows : List DumpRow) (data : δ) (dumper : Dumper σ) :
    (Step.fold (DumpRow.visit sink options) rows data dumper).2.depth = dumper.depth := by
  have h := fold_rows_atDepth sink options rows data dumper dumper.depth
  exact congrArg (fun visited => visited.2.depth) h

/-- Going down one level is a fold over rows if the visit made there is that fold. -/
theorem below_eq_fold (descend : δ → Step (Dumper σ) DumpError δ) (rows : List DumpRow)
    (data : δ) (dumper : Dumper σ)
    (h : descend data { dumper with depth := dumper.depth + 1 } =
      Step.fold (DumpRow.visit sink options) rows data
        { dumper with depth := dumper.depth + 1 }) :
    below descend data dumper = Step.fold (DumpRow.visit sink options) rows data dumper := by
  have hKept := fold_rows_depth sink options rows data dumper
  simp only [below, h, fold_rows_atDepth, Nat.add_sub_cancel]
  rw [← hKept]

/-- Writing a node, whatever its kind, and visiting its children is the fold over its row and
    the rows below, if visiting the children is the fold over those. -/
theorem writing_eq_fold (marked : Bool) (node : Node) (data : δ) (dumper : Dumper σ)
    (h : ∀ (data : δ) (dumper : Dumper σ),
      (visitor sink options).visitEach node.children data dumper =
        Step.fold (DumpRow.visit sink options) (dumpRowsEach dumper.depth node.children) data
          dumper) :
    writing sink options marked node
        (fun data => (visitor sink options).visitEach node.children data) data dumper =
      Step.fold (DumpRow.visit sink options)
        (⟨dumper.depth, node, marked⟩ :: dumpRowsEach (dumper.depth + 1) node.children)
        data dumper := by
  rw [writing_eq, Step.fold_cons]
  -- the row leaves the counter alone, so the children stand one below the node
  cases hRow : DumpRow.visit sink options ⟨dumper.depth, node, marked⟩ data dumper with
  | mk result left =>
    have hDepth : left.depth = dumper.depth := by
      have hLeft := congrArg (fun visited => visited.2.depth) hRow
      exact hLeft.symm
    cases result with
    | error error => rw [Step.andThen_error, Step.andThen_error]
    | ok data =>
      rw [Step.andThen_ok, Step.andThen_ok, ← hDepth]
      exact below_eq_fold sink options _ _ data left (h data _)

/-- Visiting trees one after the other is the fold over their rows, if visiting each is. -/
theorem visitEach_eq_fold_of_visit (nodes : List Node)
    (h : ∀ node ∈ nodes, ∀ (data : δ) (dumper : Dumper σ),
      (visitor sink options).visit node data dumper =
        Step.fold (DumpRow.visit sink options) (node.dumpRows dumper.depth) data dumper)
    (data : δ) (dumper : Dumper σ) :
    (visitor sink options).visitEach nodes data dumper =
      Step.fold (DumpRow.visit sink options) (dumpRowsEach dumper.depth nodes) data dumper := by
  rw [Visitor.visitEach_eq_fold]
  induction nodes generalizing data dumper with
  | nil => rw [dumpRowsEach_nil, Step.fold_nil, Step.fold_nil]
  | cons first rest ih =>
    have hFirst := h first (List.mem_cons_self ..) data dumper
    have hRest := ih fun node hNode => h node (List.mem_cons_of_mem _ hNode)
    rw [Step.fold_cons, hFirst, dumpRowsEach_cons, Step.fold_append]
    -- the first tree left the counter where it was, so its siblings stand at the same depth
    cases hRows : Step.fold (DumpRow.visit sink options) (first.dumpRows dumper.depth) data
        dumper with
    | mk result left =>
      have hDepth := fold_rows_depth sink options (first.dumpRows dumper.depth) data dumper
      rw [hRows] at hDepth
      cases result with
      | error error => rw [Step.andThen_error, Step.andThen_error]
      | ok data =>
        rw [Step.andThen_ok, Step.andThen_ok, hRest data left, hDepth]

/-- A visit is the fold over the rows of the tree at the depth of the dumper. -/
theorem visit_eq_fold (root : Node) (data : δ) (dumper : Dumper σ) :
    (visitor sink options).visit root data dumper =
      Step.fold (DumpRow.visit sink options) (root.dumpRows dumper.depth) data dumper := by
  induction root using Tree.induction generalizing data dumper with
  | node kind children ih =>
    have hChildren := visitEach_eq_fold_of_visit sink options children ih
    have hRoot := writing_eq_fold sink options (!kind.isSpecialized) ⟨kind, children⟩ data dumper
      hChildren
    rw [Visitor.visit, operation_visitor, hRoot, Node.dumpRows_eq, DumpRow.ofNode]

/-- Visits of trees one after the other are the fold over all their rows. -/
theorem visitEach_eq_fold (nodes : List Node) (data : δ) (dumper : Dumper σ) :
    (visitor sink options).visitEach nodes data dumper =
      Step.fold (DumpRow.visit sink options) (dumpRowsEach dumper.depth nodes) data dumper :=
  visitEach_eq_fold_of_visit sink options nodes
    (fun node _ => visit_eq_fold sink options node) data dumper

/-- An operation on a root of any kind marks the root by the operation and every node below
    by its own kind. -/
theorem perform_eq_fold (marked : Bool) (root : Node) (data : δ) (dumper : Dumper σ) :
    (visitor sink options).perform (writing sink options marked) root data dumper =
      Step.fold (DumpRow.visit sink options)
        (⟨dumper.depth, root, marked⟩ :: dumpRowsEach (dumper.depth + 1) root.children)
        data dumper :=
  writing_eq_fold sink options marked root data dumper
    (visitEach_eq_fold sink options root.children)

/-! ## §3 What the sink sees -/

/-- The sink sees of a fold over rows what the rows do to it. -/
theorem fold_rows_sink (rows : List DumpRow) (data : δ) (dumper : Dumper σ) :
    Step.fold (DumpRow.write sink options) rows data dumper.sink =
      ((Step.fold (DumpRow.visit sink options) rows data dumper).1,
        (Step.fold (DumpRow.visit sink options) rows data dumper).2.sink) :=
  Step.fold_project (fun dumper : Dumper σ => dumper.sink) (fun _ _ _ => rfl) rows data dumper

end Dumper

/-- The sink together with a list of all lines that were handed to it. -/
def LineSink.recorded (sink : LineSink σ) : LineSink (σ × List String) where
  emit line state :=
    let emitted := sink.emit line state.1
    (emitted.1, (emitted.2, state.2 ++ [line]))

namespace DumpRow

variable (sink : LineSink σ) (options : DumpOptions)

/-- Recording the lines changes nothing else. -/
theorem write_recorded_fst (row : DumpRow) (data : δ) (state : σ × List String) :
    row.write sink options data state.1 =
      ((row.write sink.recorded options data state).1,
        (row.write sink.recorded options data state).2.1) := by
  simp only [write]
  split
  · split <;> rfl
  · rfl

/-- A row that succeeds has handed over its line and passes the data on. -/
theorem write_recorded_ok (row : DumpRow) {data result : δ} {state left : σ × List String}
    (h : row.write sink.recorded options data state = (.ok result, left)) :
    result = data ∧ left.2 = state.2 ++ [row.line options.indentUnit] := by
  -- a row that is too deep fails, so this one has handed over its line
  have hEmit : row.emit sink.recorded options data state = (.ok result, left) := by
    simp only [write] at h
    split at h
    · split at h
      · cases h
      · exact h
    · exact h
  simp only [emit, LineSink.recorded] at hEmit
  cases hTaken : (sink.emit (row.line options.indentUnit) state.1).1 with
  | error error =>
    rw [hTaken] at hEmit
    cases hEmit
  | ok taken =>
    rw [hTaken] at hEmit
    cases hEmit
    exact ⟨rfl, rfl⟩

/-- A fold over rows that succeeds has handed over the line of every row, in order, and
    passes the data on. -/
theorem fold_recorded_ok (rows : List DumpRow) {data result : δ} {state left : σ × List String}
    (h : Step.fold (write sink.recorded options) rows data state = (.ok result, left)) :
    result = data ∧ left.2 = state.2 ++ rows.map (line options.indentUnit) := by
  induction rows generalizing data state with
  | nil =>
    rw [Step.fold_nil] at h
    cases h
    exact ⟨rfl, (List.append_nil _).symm⟩
  | cons row rest ih =>
    rw [Step.fold_cons] at h
    cases hRow : row.write sink.recorded options data state with
    | mk outcome next =>
      rw [hRow] at h
      cases outcome with
      | error error => cases h
      | ok passed =>
        obtain ⟨rfl, hNext⟩ := write_recorded_ok sink options row hRow
        obtain ⟨hResult, hLines⟩ := ih h
        refine ⟨hResult, ?_⟩
        rw [hLines, hNext, List.map_cons, List.append_assoc]
        rfl

end DumpRow

/-- **A dump is a fold over the pre-order rows.** Visiting a tree from any depth gives the
    result, leaves the sink and restores the depth as the fold does, in which each row is too
    deep or writes one line, and which stops at the first row that fails. A visit that succeeds
    returns the data it was given, and the lines it handed to the sink are those of the rows,
    one for each node. -/
theorem Dumper.visit_refines_rows (sink : LineSink σ) (options : DumpOptions) (root : Node)
    (data : δ) (dumper : Dumper σ) :
    let visited := (Dumper.visitor sink options).visit root data dumper
    let rows := root.dumpRows dumper.depth
    let folded := Step.fold (DumpRow.write sink options) rows data dumper.sink
    let recorded := (Dumper.visitor sink.recorded options).visit root data
      { dumper with sink := (dumper.sink, []) }
    visited.1 = folded.1 ∧ visited.2.sink = folded.2 ∧ visited.2.depth = dumper.depth ∧
      recorded.1 = visited.1 ∧ recorded.2.sink.1 = visited.2.sink ∧
      ∀ result, visited.1 = .ok result →
        result = data ∧ recorded.2.sink.2 = rows.map (DumpRow.line options.indentUnit) ∧
          recorded.2.sink.2.length = root.count := by
  intro visited rows folded recorded
  have hVisited : visited = Step.fold (DumpRow.visit sink options) rows data dumper :=
    visit_eq_fold sink options root data dumper
  have hFolded : folded = (visited.1, visited.2.sink) := by
    rw [hVisited]
    exact fold_rows_sink sink options rows data dumper
  have hDepth : visited.2.depth = dumper.depth := by
    rw [hVisited]
    exact fold_rows_depth sink options rows data dumper
  -- the same visit with the lines kept, as a fold over the same rows
  have hRecorded : Step.fold (DumpRow.write sink.recorded options) rows data (dumper.sink, []) =
      (recorded.1, recorded.2.sink) := by
    have hVisit : recorded = _ := visit_eq_fold sink.recorded options root data _
    rw [hVisit]
    exact fold_rows_sink sink.recorded options rows data { dumper with sink := (dumper.sink, []) }
  have hPlain : folded = (recorded.1, recorded.2.sink.1) := by
    have h := Step.fold_project (fun state : σ × List String => state.1)
      (DumpRow.write_recorded_fst sink options) rows data (dumper.sink, [])
    rw [hRecorded] at h
    exact h
  have hSame : (recorded.1, recorded.2.sink.1) = (visited.1, visited.2.sink) :=
    hPlain.symm.trans hFolded
  obtain ⟨hResult, hSink⟩ := Prod.mk.inj hSame
  refine ⟨by rw [hFolded], by rw [hFolded], hDepth, hResult, hSink, ?_⟩
  intro result hOk
  rw [hResult, hOk] at hRecorded
  obtain ⟨hData, hLines⟩ := DumpRow.fold_recorded_ok sink options rows hRecorded
  rw [List.nil_append] at hLines
  refine ⟨hData, hLines, ?_⟩
  rw [hLines, List.length_map, Node.length_dumpRows]

end Outline
