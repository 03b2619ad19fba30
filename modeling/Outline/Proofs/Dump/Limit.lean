import Outline.Proofs.Dump.Rows

/-!
# The depth limit and the sinks in memory

A row that is too deep never reaches the sink. So the limit and the sink can be looked at one
after the other: the rows before the first one that is too deep are offered to the sink, and
then the dump fails if there is such a row. Sinks in memory take every row they are offered.

- `DumpOptions.accepted`, `DumpOptions.excess?` — the rows before the first one that is too
  deep, and the error of that one
- `DumpRow.fold_write_eq` — the limit apart from the sink
- `dumpWith_list`, `dumpWith_text`, `dumpToString_value` — what the sinks in memory hold in the
  end
-/

namespace Outline

variable {σ δ : Type}

/-! ## §1 The limit -/

/-- Whether a row is not deeper than the limit. -/
def DumpRow.fits (options : DumpOptions) (row : DumpRow) : Bool :=
  options.maxDepth.all (row.depth ≤ ·)

namespace DumpOptions

/-- The rows before the first one that is deeper than the limit. -/
def accepted (options : DumpOptions) (rows : List DumpRow) : List DumpRow :=
  rows.takeWhile (DumpRow.fits options)

/-- The error of the first row that is deeper than the limit. -/
def excess? (options : DumpOptions) (rows : List DumpRow) : Option DumpError :=
  match options.maxDepth with
  | none => none
  | some limit => (rows.find? (limit < ·.depth)).map fun row => .tooDeep row.depth limit

/-- Ends a dump, with the error of the first row that is too deep if there is one. -/
def conclude (options : DumpOptions) (rows : List DumpRow) (data : δ) : Step σ DumpError δ :=
  fun state =>
    match options.excess? rows with
    | some error => (.error error, state)
    | none => (.ok data, state)

/-- How a dump ends does not change what its sink holds. -/
@[simp] theorem conclude_snd (options : DumpOptions) (rows : List DumpRow) (data : δ) (state : σ) :
    (options.conclude rows data state).2 = state := by
  unfold conclude
  split <;> rfl

theorem excess?_nil (options : DumpOptions) : options.excess? [] = none := by
  unfold excess?
  split <;> rfl

theorem excess?_cons_of_fits {options : DumpOptions} {row : DumpRow} (rest : List DumpRow)
    (h : row.fits options = true) : options.excess? (row :: rest) = options.excess? rest := by
  unfold excess?
  split
  · rfl
  · rename_i limit hLimit
    have hDepth : ¬ limit < row.depth := by simpa [DumpRow.fits, hLimit] using h
    simp [hDepth]

theorem conclude_cons_of_fits {options : DumpOptions} {row : DumpRow} (rest : List DumpRow)
    (h : row.fits options = true) :
    (options.conclude (row :: rest) : δ → Step σ DumpError δ) = options.conclude rest := by
  funext data state
  simp only [conclude, excess?_cons_of_fits rest h]

/-- A row that does not fit is deeper than a limit. -/
theorem exists_limit {options : DumpOptions} {row : DumpRow} (h : row.fits options = false) :
    ∃ limit, options.maxDepth = some limit ∧ limit < row.depth := by
  cases hLimit : options.maxDepth with
  | none => simp [DumpRow.fits, hLimit] at h
  | some limit => exact ⟨limit, rfl, by simpa [DumpRow.fits, hLimit] using h⟩

/-- The error of a row that is too deep names its depth and the limit. -/
theorem exists_of_excess? {options : DumpOptions} {rows : List DumpRow}
    {error : DumpError} (h : options.excess? rows = some error) :
    ∃ depth limit,
      options.maxDepth = some limit ∧ limit < depth ∧ error = .tooDeep depth limit := by
  unfold excess? at h
  split at h
  · cases h
  · rename_i limit hLimit
    obtain ⟨row, hRow, rfl⟩ := Option.map_eq_some_iff.mp h
    exact ⟨row.depth, limit, hLimit, by simpa using List.find?_some hRow, rfl⟩

/-- Without a row that is too deep, every row is accepted. -/
theorem accepted_of_excess? {options : DumpOptions} {rows : List DumpRow}
    (h : options.excess? rows = none) : options.accepted rows = rows := by
  induction rows with
  | nil => rfl
  | cons row rest ih =>
    cases hFits : row.fits options with
    | true =>
      rw [excess?_cons_of_fits rest hFits] at h
      simpa [accepted, hFits] using ih h
    | false =>
      obtain ⟨limit, hLimit, hDepth⟩ := exists_limit hFits
      simp [excess?, hLimit, hDepth] at h

end DumpOptions

namespace DumpRow

variable (sink : LineSink σ) (options : DumpOptions)

theorem write_of_fits {row : DumpRow} (h : row.fits options = true) (data : δ) (state : σ) :
    row.write sink options data state = row.emit sink options data state := by
  unfold write
  split
  · rename_i limit hLimit
    apply if_neg
    simpa [fits, hLimit] using h
  · rfl

/-- A fold over rows offers the accepted ones to the sink and then looks for one that is too
    deep. -/
theorem fold_write_eq (rows : List DumpRow) (data : δ) (state : σ) :
    Step.fold (write sink options) rows data state =
      Step.andThen (Step.fold (emit sink options) (options.accepted rows) data state)
        (options.conclude rows) := by
  induction rows generalizing data state with
  | nil => simp [DumpOptions.accepted, DumpOptions.conclude, DumpOptions.excess?_nil]
  | cons row rest ih =>
    cases hFits : row.fits options with
    | true =>
      have hAccepted : options.accepted (row :: rest) = row :: options.accepted rest := by
        simp [DumpOptions.accepted, hFits]
      rw [hAccepted, Step.fold_cons, Step.fold_cons, Step.andThen_assoc,
        write_of_fits sink options hFits, DumpOptions.conclude_cons_of_fits rest hFits]
      congr
      funext data state
      exact ih data state
    | false =>
      -- the row is the first that is too deep, and the sink sees nothing of it
      obtain ⟨limit, hLimit, hDepth⟩ := DumpOptions.exists_limit hFits
      simp [DumpOptions.accepted, hFits, write, DumpOptions.conclude, DumpOptions.excess?, hLimit,
        hDepth]

/-! ## §2 Sinks in memory -/

theorem fold_emit_list (rows : List DumpRow) (data : δ) (lines : List String) :
    Step.fold (emit LineSink.list options) rows data lines =
      (.ok data, lines ++ rows.map (line options.indentUnit)) := by
  induction rows generalizing lines with
  | nil => simp
  | cons row rest ih =>
    show Step.fold (emit LineSink.list options) rest data
      (lines ++ [row.line options.indentUnit]) = _
    rw [ih]
    simp

/-- The lines of rows as one text, each ended by a line break. -/
def text (unit : String) (rows : List DumpRow) : String :=
  String.join (rows.map fun row => row.line unit ++ "\n")

theorem text_eq_join_lines (unit : String) (rows : List DumpRow) :
    text unit rows = String.join ((rows.map (line unit)).map (· ++ "\n")) := by
  simp [text, Function.comp_def]

theorem fold_emit_text (rows : List DumpRow) (data : δ) (written : String) :
    Step.fold (emit LineSink.text options) rows data written =
      (.ok data, written ++ text options.indentUnit rows) := by
  induction rows generalizing written with
  | nil => simp [text]
  | cons row rest ih =>
    show Step.fold (emit LineSink.text options) rest data
      (written ++ row.line options.indentUnit ++ "\n") = _
    rw [ih]
    simp [text, String.append_assoc]

end DumpRow

/-! ## §3 Dumps of one tree -/

/-- The result and the sink of a dump are those of the fold over the rows of the tree. -/
theorem dumpWith_value (sink : LineSink σ) (options : DumpOptions) (root : Node) (data : δ)
    (state : σ) :
    (dumpWith sink options root data state).value =
      Step.fold (DumpRow.write sink options) (root.dumpRows 0) data state := by
  have hVisit := Dumper.visit_eq_fold sink options root data
    { sink := state, notices := [.dumpStarted root.label] }
  have hSink := Dumper.fold_rows_sink sink options (root.dumpRows 0) data
    { sink := state, notices := [.dumpStarted root.label] }
  rw [hSink, ← hVisit]
  rfl

/-- A list holds the lines of the accepted rows in the end. -/
theorem dumpWith_list (options : DumpOptions) (root : Node) (data : δ) (lines : List String) :
    (dumpWith LineSink.list options root data lines).value =
      options.conclude (root.dumpRows 0) data (lines ++
        (options.accepted (root.dumpRows 0)).map (DumpRow.line options.indentUnit)) := by
  rw [dumpWith_value, DumpRow.fold_write_eq, DumpRow.fold_emit_list, Step.andThen_ok]

/-- A text holds the lines of the accepted rows in the end. -/
theorem dumpWith_text (options : DumpOptions) (root : Node) (data : δ) (written : String) :
    (dumpWith LineSink.text options root data written).value =
      options.conclude (root.dumpRows 0) data (written ++
        DumpRow.text options.indentUnit (options.accepted (root.dumpRows 0))) := by
  rw [dumpWith_value, DumpRow.fold_write_eq, DumpRow.fold_emit_text, Step.andThen_ok]

/-- The dump to a text is that of all rows, unless one of them is too deep. -/
theorem dumpToString_value (options : DumpOptions) (root : Node) :
    (dumpToString options root).value =
      match options.excess? (root.dumpRows 0) with
      | some error => .error error
      | none => .ok (DumpRow.text options.indentUnit (root.dumpRows 0)) := by
  simp only [dumpToString, Logged.map, dumpWith_text, String.empty_append, DumpOptions.conclude]
  split
  · rfl
  · rename_i hNone
    rw [DumpOptions.accepted_of_excess? hNone]
    rfl

end Outline
