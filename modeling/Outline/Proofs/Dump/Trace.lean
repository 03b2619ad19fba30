import Mathlib.Data.List.Basic
import Outline.Proofs.Dump.Streaming

/-!
# What a dump reports

A dump reports when it starts and when it is finished, and it warns about each node that has no
operation of its own. The warning comes before the depth of the node and the sink are looked at,
so that a node which makes the dump fail is still warned about, and no node behind it is.

- `DumpRow.warnings` — the warnings about rows
- `DumpRow.Reached` — the rows that a dump gets to, the one that fails included
- `DumpRow.fold_visit_reached` — a fold over rows reports the rows that it gets to
- `dumpWith_trace` — all that a dump reports, in order
-/

namespace Outline

variable {σ δ : Type}

/-! ## §1 Warnings -/

/-- The warning about a node, if its kind has no operation of its own. -/
def Node.warning? (node : Node) : Option Notice :=
  match node.item with
  | .other name => some (.unhandledKind name)
  | _ => none

namespace DumpRow

/-- A row that is marked according to its kind is reported as its node says. -/
theorem notices_ofNode (depth : Nat) (node : Node) :
    (DumpRow.ofNode depth node).notices = node.warning?.toList := by
  obtain ⟨kind, children⟩ := node
  cases kind <;> rfl

/-- The warnings about rows, in their order. -/
def warnings (rows : List DumpRow) : List Notice := rows.filterMap fun row => row.node.warning?

/-- Among the rows of a tree, no other rows are reported than those that are warned about. -/
theorem flatMap_notices {root : Node} {depth : Nat} {rows : List DumpRow}
    (h : rows <+: root.dumpRows depth) : rows.flatMap notices = warnings rows := by
  rw [warnings, List.filterMap_eq_flatMap_toList]
  apply List.flatMap_congr
  intro row hRow
  obtain ⟨⟨depth, node⟩, -, rfl⟩ := List.mem_map.mp (h.subset hRow)
  exact notices_ofNode depth node

theorem level_of_mem_warnings {rows : List DumpRow} {notice : Notice}
    (h : notice ∈ warnings rows) : notice.level = .warn := by
  obtain ⟨row, -, hNotice⟩ := List.mem_filterMap.mp h
  unfold Node.warning? at hNotice
  split at hNotice
  · cases hNotice
    rfl
  · cases hNotice

/-! ## §2 The rows that are reached -/

variable (sink : LineSink σ) (options : DumpOptions)

/-- Which of some rows are reached when they are written one after the other, and with which
    result: all of them, or those up to the first that is too deep or that the sink refuses. -/
inductive Reached (data : δ) (state : σ) :
    List DumpRow → List DumpRow → Except DumpError δ × σ → Prop
  | all {rows : List DumpRow} {left : σ}
      (hAll : Step.fold (write sink options) rows data state = (.ok data, left)) :
      Reached data state rows rows (.ok data, left)
  | tooDeep {before after : List DumpRow} {row : DumpRow} {left : σ} {limit : Nat}
      (hBefore : Step.fold (write sink options) before data state = (.ok data, left))
      (hLimit : options.maxDepth = some limit) (hDepth : limit < row.depth) :
      Reached data state (before ++ row :: after) (before ++ [row])
        (.error (.tooDeep row.depth limit), left)
  | refused {before after : List DumpRow} {row : DumpRow} {between left : σ} {error : DumpError}
      (hBefore : Step.fold (write sink options) before data state = (.ok data, between))
      (hFits : row.fits options = true)
      (hEmit : sink.emit (row.line options.indentUnit) between = (.error error, left)) :
      Reached data state (before ++ row :: after) (before ++ [row]) (.error error, left)

variable {sink options}

theorem Reached.isPrefix {rows seen : List DumpRow} {data : δ} {state : σ}
    {outcome : Except DumpError δ × σ} (h : Reached sink options data state rows seen outcome) :
    seen <+: rows := by
  cases h with
  | all _ => exact List.prefix_rfl
  | tooDeep _ _ _ => exact ⟨_, List.append_cons _ _ _ |>.symm⟩
  | refused _ _ _ => exact ⟨_, List.append_cons _ _ _ |>.symm⟩

/-- A first row that is written does not change which of the others are reached. -/
theorem Reached.cons {row : DumpRow} {rows seen : List DumpRow} {data : δ} {state next : σ}
    {outcome : Except DumpError δ × σ}
    (hRow : row.write sink options data state = (.ok data, next))
    (h : Reached sink options data next rows seen outcome) :
    Reached sink options data state (row :: rows) (row :: seen) outcome := by
  have hFold (before : List DumpRow) :
      Step.fold (write sink options) (row :: before) data state =
        Step.fold (write sink options) before data next := by
    rw [Step.fold_cons, hRow, Step.andThen_ok]
  cases h with
  | all hAll => exact .all ((hFold _).trans hAll)
  | tooDeep hBefore hLimit hDepth =>
    rw [← List.cons_append, ← List.cons_append]
    exact .tooDeep ((hFold _).trans hBefore) hLimit hDepth
  | refused hBefore hFits hEmit =>
    rw [← List.cons_append, ← List.cons_append]
    exact .refused ((hFold _).trans hBefore) hFits hEmit

/-- A first row that fails is the last that is reached. -/
theorem reached_singleton {row : DumpRow} {data : δ} {state left : σ} {error : DumpError}
    (rest : List DumpRow) (h : row.write sink options data state = (.error error, left)) :
    Reached sink options data state (row :: rest) [row] (.error error, left) := by
  rw [← List.nil_append (row :: rest), ← List.nil_append [row]]
  cases hFits : row.fits options with
  | false =>
    obtain ⟨limit, hLimit, hDepth⟩ := DumpOptions.exists_limit hFits
    simp only [write, hLimit, hDepth, if_true] at h
    cases h
    exact .tooDeep rfl hLimit hDepth
  | true =>
    rw [write_of_fits sink options hFits] at h
    unfold emit at h
    cases hEmit : sink.emit (row.line options.indentUnit) state with
    | mk result next =>
      rw [hEmit] at h
      cases result with
      | ok => cases h
      | error cause =>
        cases h
        exact .refused rfl hFits hEmit

variable (sink options)

/-- A row passes the data on or fails. -/
theorem write_cases (row : DumpRow) (data : δ) (state : σ) :
    (∃ left, row.write sink options data state = (.ok data, left)) ∨
      ∃ error left, row.write sink options data state = (.error error, left) := by
  unfold write emit
  obtain ⟨error | _, left⟩ := sink.emit (row.line options.indentUnit) state
  all_goals split <;> try split
  all_goals simp [Except.map]

/-- A fold over rows reports the rows that it reaches, after what had been reported before. -/
theorem fold_visit_reached (rows : List DumpRow) (data : δ) (dumper : Dumper σ) :
    ∃ seen,
      Reached sink options data dumper.sink rows seen
        ((Step.fold (visit sink options) rows data dumper).1,
          (Step.fold (visit sink options) rows data dumper).2.sink) ∧
      (Step.fold (visit sink options) rows data dumper).2.notices =
        dumper.notices ++ seen.flatMap notices := by
  induction rows generalizing dumper with
  | nil => exact ⟨[], .all rfl, by simp⟩
  | cons row rest ih =>
    rw [Step.fold_cons]
    -- the row is reported in both cases
    rcases write_cases sink options row data dumper.sink with ⟨left, hWrite⟩ | ⟨error, left, hWrite⟩
    · have hVisit : row.visit sink options data dumper =
          (.ok data, { dumper with sink := left, notices := dumper.notices ++ row.notices }) := by
        rw [visit, hWrite]
      rw [hVisit, Step.andThen_ok]
      obtain ⟨seen, hReached, hNotices⟩ :=
        ih { dumper with sink := left, notices := dumper.notices ++ row.notices }
      refine ⟨row :: seen, hReached.cons hWrite, ?_⟩
      rw [hNotices, List.flatMap_cons, List.append_assoc]
    · have hVisit : row.visit sink options data dumper =
          (.error error, { dumper with
            sink := left, notices := dumper.notices ++ row.notices }) := by
        rw [visit, hWrite]
      rw [hVisit, Step.andThen_error]
      refine ⟨[row], reached_singleton rest hWrite, ?_⟩
      rw [List.flatMap_singleton]

end DumpRow

/-! ## §3 Dumps -/

/-- What a dump reports at its end: that it is finished, if it did not fail. -/
def finishing (root : Node) : Except DumpError δ → List Notice
  | .ok _ => [.dumpFinished root.label]
  | .error _ => []

/-- A dump reports its start, warns about the rows that it reaches, and reports its end. -/
theorem dumpWith_reached (sink : LineSink σ) (options : DumpOptions) (root : Node) (data : δ)
    (state : σ) :
    ∃ seen,
      DumpRow.Reached sink options data state (root.dumpRows 0) seen
        (dumpWith sink options root data state).value ∧
      (dumpWith sink options root data state).notices =
        .dumpStarted root.label :: DumpRow.warnings seen ++
          finishing root (dumpWith sink options root data state).value.1 := by
  obtain ⟨seen, hReached, hNotices⟩ := DumpRow.fold_visit_reached sink options
    (root.dumpRows 0) data { sink := state, notices := [.dumpStarted root.label] }
  have hVisit := Dumper.visit_eq_fold sink options root data
    { sink := state, notices := [.dumpStarted root.label] }
  rw [DumpRow.flatMap_notices hReached.isPrefix] at hNotices
  rw [← hVisit] at hReached hNotices
  refine ⟨seen, hReached, ?_⟩
  show ((Dumper.visitor sink options).visit root data _).2.notices ++ _ = _
  rw [hNotices]
  rfl

/-- The end is reported exactly when the dump succeeds. -/
theorem finished_mem_iff (sink : LineSink σ) (options : DumpOptions) (root : Node) (data : δ)
    (state : σ) :
    .dumpFinished root.label ∈ (dumpWith sink options root data state).notices ↔
      ∃ result, (dumpWith sink options root data state).value.1 = .ok result := by
  obtain ⟨seen, -, hNotices⟩ := dumpWith_reached sink options root data state
  -- a warning is no report of an end, for their levels differ
  have hWarnings : Notice.dumpFinished root.label ∉ DumpRow.warnings seen := by
    intro hMem
    cases DumpRow.level_of_mem_warnings hMem
  rw [hNotices]
  cases (dumpWith sink options root data state).value.1 <;> simp [finishing, hWarnings]

/-- A dump reports its start, one warning for each node without an operation of its own among
    the rows up to and including the first that fails, and its end if no row fails. A writer that
    cannot be flushed in the end makes a difference to the result only. -/
theorem dumpWith_trace (sink : LineSink σ) (options : DumpOptions) (root : Node) (data : δ)
    (state : σ) :
    let dumped := dumpWith sink options root data state
    let started := Notice.dumpStarted root.label
    let finished := Notice.dumpFinished root.label
    (started.level = .debug ∧ finished.level = .debug) ∧
      (∃ seen, DumpRow.Reached sink options data state (root.dumpRows 0) seen dumped.value ∧
        (∀ warning ∈ DumpRow.warnings seen, warning.level = .warn) ∧
        dumped.notices = started :: DumpRow.warnings seen ++ finishing root dumped.value.1) ∧
      (finished ∈ dumped.notices ↔ ∃ result, dumped.value.1 = .ok result) ∧
      ∀ {τ : Type} (writer : Writer τ) (start : τ),
        let dumped := dumpWith writer.sink options root () start
        let streamed := dumpToWriter writer options root start
        streamed.notices = dumped.notices ∧
          ∀ left cause after, dumped.value = (.ok (), left) →
            writer.flush left = (.error cause, after) →
            streamed.value = (.error (.io cause), after) ∧ finished ∈ streamed.notices := by
  intro dumped started finished
  refine ⟨⟨rfl, rfl⟩, ?_, finished_mem_iff sink options root data state, ?_⟩
  · obtain ⟨seen, hReached, hNotices⟩ := dumpWith_reached sink options root data state
    exact ⟨seen, hReached, fun warning => DumpRow.level_of_mem_warnings, hNotices⟩
  · intro τ writer start dumped streamed
    refine ⟨rfl, ?_⟩
    intro left cause after hDumped hFlush
    refine ⟨?_, ?_⟩
    · simp only [streamed, dumpToWriter, Logged.map]
      rw [hDumped]
      simp only [hFlush]
    · exact (finished_mem_iff writer.sink options root () start).mpr ⟨(), congrArg Prod.fst hDumped⟩

/-- A buffer that cannot be flushed fails in the end, after the end has been reported. -/
theorem dumpWith_trace_flush_refused :
    let root : Node := ⟨.start, [⟨.other "list", []⟩]⟩
    let start : BoundedBuffer := { refusesFlush := true }
    let dumped := dumpWith BoundedBuffer.writer.sink {} root () start
    let streamed := dumpToWriter BoundedBuffer.writer {} root start
    ∃ left cause after, dumped.value = (.ok (), left) ∧
      BoundedBuffer.flush left = (.error cause, after) ∧
      streamed.value = (.error (.io cause), after) ∧
      .dumpFinished root.label ∈ streamed.notices := by
  intro root start dumped streamed
  let rows := DumpOptions.accepted {} (root.dumpRows 0)
  have hDumped : dumped.value =
      (.ok (), { start with stored := Writer.bytesOf (DumpRow.text " " rows) }) := by
    show (dumpWith BoundedBuffer.writer.sink {} root () start).value = _
    rw [dumpWith_value, DumpRow.fold_write_eq, BoundedBuffer.fold_emit_unlimited rfl,
      Step.andThen_ok]
    rfl
  obtain ⟨-, -, -, hWriter⟩ := dumpWith_trace BoundedBuffer.writer.sink {} root () start
  have hStreamed := (hWriter BoundedBuffer.writer start).2 _ (.other "flush refused") _ hDumped rfl
  exact ⟨_, _, _, hDumped, rfl, hStreamed⟩

/-- The second node is too deep and refused with a warning; the third is never looked at. -/
example :
    (dumpWith LineSink.list { maxDepth := some 0 }
      ⟨.start, [⟨.other "list", []⟩, ⟨.other "map", []⟩]⟩ () []).notices =
      [.dumpStarted "Start", .unhandledKind "list"] := by
  decide +kernel

end Outline
