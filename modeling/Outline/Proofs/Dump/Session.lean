import Outline.Proofs.Dump.Rows

/-!
# Dumpers in use

One dumper can serve many calls: visits of trees, of the children of a tree, of lists of
trees, and single operations on roots of any kind. Its sink may fail at any line, and it may
change between two calls. The depth counter is all that a dumper carries from one call to
the next besides its sink and its notices, so the counter has to be back at zero each time.

- `Call`, `Visitor.answer` — the nine ways into a visitor
- `Dumper.after` — a dumper after any sequence of calls and changes of its sink
- `Dumper.answer_eq_fold` — every call is a fold over rows
- `Dumper.answer_after_eq_fresh` — a call finds the dumper as good as new
-/

namespace Outline

/-! ## §1 Calls -/

/-- The operations of a visitor. -/
inductive Operator where
  | node
  | start
  | add
  | multiply
  | identifier
  | integer
deriving DecidableEq

/-- What a visitor can be asked to do. -/
inductive Call where
  /-- Visit a tree. -/
  | accept (root : Node)
  /-- Visit the children of a tree. -/
  | acceptChildren (root : Node)
  /-- Visit trees one after the other. -/
  | visitChildren (nodes : List Node)
  /-- Run an operation on a root, whatever its kind. -/
  | apply (operator : Operator) (root : Node)

namespace Visitor

variable {σ ε δ : Type}

/-- The operation of a visitor that an operator names. -/
def select (visitor : Visitor σ ε δ) : Operator → Operation σ ε δ
  | .node => visitor.node
  | .start => visitor.start
  | .add => visitor.add
  | .multiply => visitor.multiply
  | .identifier => visitor.identifier
  | .integer => visitor.integer

/-- What a visitor does when it is called. -/
def answer (visitor : Visitor σ ε δ) : Call → δ → Step σ ε δ
  | .accept root => visitor.visit root
  | .acceptChildren root => visitor.visitChildren root
  | .visitChildren nodes => visitor.visitEach nodes
  | .apply operator root => visitor.perform (visitor.select operator) root

end Visitor

/-- The rows that a call dumps when it starts at `depth`. Only a direct operation marks its
    root otherwise than by its kind. -/
def Call.rows (depth : Nat) : Call → List DumpRow
  | .accept root => root.dumpRows depth
  | .acceptChildren root => dumpRowsEach depth root.children
  | .visitChildren nodes => dumpRowsEach depth nodes
  | .apply operator root =>
    ⟨depth, root, operator = .node⟩ :: dumpRowsEach (depth + 1) root.children

/-! ## §2 Sessions -/

/-- What happens to a dumper in use. -/
inductive DumperEvent (σ : Type) : Type 1 where
  /-- A call, with data of any type. -/
  | call (δ : Type) (call : Call) (data : δ)
  /-- Something changes the sink, such as giving it room again. -/
  | outside (change : σ → σ)

namespace Dumper

variable {σ δ : Type} (sink : LineSink σ) (options : DumpOptions)

/-- The dumper after an event. -/
def handle (dumper : Dumper σ) : DumperEvent σ → Dumper σ
  | .call _ call data => ((visitor sink options).answer call data dumper).2
  | .outside change => { dumper with sink := change dumper.sink }

/-- A dumper made with a sink in the state `start`, after a sequence of events. -/
def after (start : σ) (events : List (DumperEvent σ)) : Dumper σ :=
  events.foldl (handle sink options) { sink := start }

/-! ## §3 The counter -/

/-- Among the operations, the general one marks its root and the others do not. -/
theorem select_visitor (operator : Operator) :
    (visitor sink options : Visitor (Dumper σ) DumpError δ).select operator =
      writing sink options (operator = .node) := by
  cases operator <;> rfl

/-- Every call is the fold over its rows. -/
theorem answer_eq_fold (call : Call) (data : δ) (dumper : Dumper σ) :
    (visitor sink options).answer call data dumper =
      Step.fold (DumpRow.visit sink options) (call.rows dumper.depth) data dumper := by
  cases call with
  | accept root => exact visit_eq_fold sink options root data dumper
  | acceptChildren root => exact visitEach_eq_fold sink options root.children data dumper
  | visitChildren nodes => exact visitEach_eq_fold sink options nodes data dumper
  | apply operator root =>
    rw [Visitor.answer, select_visitor]
    exact perform_eq_fold sink options (operator = .node) root data dumper

/-- No event moves the counter. -/
theorem handle_depth (dumper : Dumper σ) (event : DumperEvent σ) :
    (handle sink options dumper event).depth = dumper.depth := by
  cases event with
  | call δ call data =>
    rw [handle, answer_eq_fold]
    exact fold_rows_depth sink options (call.rows dumper.depth) data dumper
  | outside change => rfl

/-- The counter of a dumper in use stands at zero between any two events. -/
theorem after_depth (start : σ) (events : List (DumperEvent σ)) :
    (after sink options start events).depth = 0 := by
  -- from any dumper on, since the events before have left one of any kind
  have run : ∀ (events : List (DumperEvent σ)) (dumper : Dumper σ),
      (events.foldl (handle sink options) dumper).depth = dumper.depth := by
    intro events
    induction events with
    | nil => intro dumper; rfl
    | cons event rest ih =>
      intro dumper
      rw [List.foldl_cons, ih, handle_depth]
  exact run events { sink := start }

/-- A fold over rows adds its notices to those that are there. -/
theorem fold_rows_notices (rows : List DumpRow) (data : δ) (dumper : Dumper σ)
    (earlier : List Notice) :
    Step.fold (DumpRow.visit sink options) rows data
        { dumper with notices := earlier ++ dumper.notices } =
      ((Step.fold (DumpRow.visit sink options) rows data dumper).1,
        { (Step.fold (DumpRow.visit sink options) rows data dumper).2 with
          notices := earlier
            ++ (Step.fold (DumpRow.visit sink options) rows data dumper).2.notices }) := by
  refine Step.fold_project
    (fun dumper : Dumper σ => { dumper with notices := earlier ++ dumper.notices }) ?_ rows data
    dumper
  -- a row puts its notices behind those that are there and looks at none of them
  intro row data dumper
  simp only [DumpRow.visit, List.append_assoc]

/-- At depth zero, a fold over rows is the one on a new dumper, with the notices that are
    there in front. -/
theorem fold_rows_fresh (rows : List DumpRow) (data : δ) (dumper : Dumper σ)
    (h : dumper.depth = 0) :
    Step.fold (DumpRow.visit sink options) rows data dumper =
      ((Step.fold (DumpRow.visit sink options) rows data { sink := dumper.sink }).1,
        { (Step.fold (DumpRow.visit sink options) rows data { sink := dumper.sink }).2 with
          notices := dumper.notices ++ (Step.fold (DumpRow.visit sink options) rows data
            { sink := dumper.sink }).2.notices }) := by
  obtain ⟨state, depth, notices⟩ := dumper
  subst h
  have hNotices := fold_rows_notices sink options rows data { sink := state } notices
  rw [List.append_nil] at hNotices
  exact hNotices

/-! ## §4 No history -/

/-- **A dumper carries no history from one call to the next.** After any sequence of calls,
    failed ones included, and any changes of the sink in between, a call gives the result,
    leaves the sink and adds the notices as on a new dumper that holds the sink as it is, and
    the counter is at zero again behind it. A direct operation writes the root, whatever its
    kind, with the mark exactly if it is the general one, and all nodes below by their own
    kinds. -/
theorem answer_after_eq_fresh (start : σ) (events : List (DumperEvent σ)) (call : Call)
    (data : δ) :
    let before := after sink options start events
    let used := (visitor sink options).answer call data before
    let fresh := (visitor sink options).answer call data { sink := before.sink }
    before.depth = 0 ∧ used.2.depth = 0 ∧
      used.1 = fresh.1 ∧ used.2.sink = fresh.2.sink ∧
      used.2.notices = before.notices ++ fresh.2.notices ∧
      ∀ operator root, call = .apply operator root →
        (used.1, used.2.sink) =
          Step.fold (DumpRow.write sink options)
            (⟨0, root, operator = .node⟩ :: dumpRowsEach 1 root.children) data before.sink := by
  intro before used fresh
  have hDepth : before.depth = 0 := after_depth sink options start events
  have hUsed : used = Step.fold (DumpRow.visit sink options) (call.rows 0) data before := by
    have h : used = _ := answer_eq_fold sink options call data before
    rw [h, hDepth]
  have hFresh : fresh = Step.fold (DumpRow.visit sink options) (call.rows 0) data
      { sink := before.sink } :=
    answer_eq_fold sink options call data { sink := before.sink }
  -- the same rows on both dumpers, which differ in their notices only
  have hSame : used = (fresh.1, { fresh.2 with
      notices := before.notices ++ fresh.2.notices }) := by
    rw [hUsed, hFresh]
    exact fold_rows_fresh sink options (call.rows 0) data before hDepth
  have hZero : used.2.depth = 0 := by
    rw [hUsed, fold_rows_depth, hDepth]
  refine ⟨hDepth, hZero, by rw [hSame], by rw [hSame], by rw [hSame], ?_⟩
  -- the rows of a direct call begin with its root, marked by the operation
  rintro operator root rfl
  rw [hUsed]
  exact (fold_rows_sink sink options _ data before).symm

end Dumper

end Outline
