import Outline.Proofs.Dump.Limit
import Outline.Proofs.Format.Builtin

/-!
# The depth limit and the height of a tree

The height of a tree is computed from the leaves up, while a dump counts the depth of its rows
from the root down. A limit leaves room for one level more than its number, since the root has
depth zero. In a tree with more levels, the first row that is too deep is just one level below
the limit, wherever it is, because a listing in pre-order goes down one level at a time.

- `Tree.forall_subtrees_le_iff` — depths of rows and the height
- `Tree.depth_of_find?_subtrees` — the first row below a limit
- `dump_depth_guard` — when dumps in memory succeed, and what they give
-/

namespace Outline

/-! ## §1 Levels of a listing -/

namespace Tree

variable {α : Type}

/-- No row of a listing is deeper than a limit exactly if the tree has no more levels than that
    leaves room for. -/
theorem forall_subtrees_le_iff (tree : Tree α) (depth limit : Nat) :
    (∀ row ∈ tree.subtrees depth, row.1 ≤ limit) ↔ depth + tree.height ≤ limit + 1 := by
  induction tree using Tree.induction generalizing depth with
  | node item children ih =>
    have hBelow : (∀ row ∈ children.flatMap (subtrees (depth + 1)), row.1 ≤ limit) ↔
        ∀ child ∈ children, depth + 1 + child.height ≤ limit + 1 := by
      simp only [List.mem_flatMap]
      constructor
      · intro h child hChild
        apply (ih child hChild (depth + 1)).mp
        intro row hRow
        exact h row ⟨child, hChild, hRow⟩
      · intro h row hRow
        obtain ⟨child, hChild, hRow⟩ := hRow
        exact (ih child hChild (depth + 1)).mpr (h child hChild) row hRow
    rw [subtrees_eq, List.forall_mem_cons, hBelow, height]
    constructor
    · intro h
      have hRoot : depth ≤ limit := h.1
      -- the root takes the first of the levels that are left, the children share the others
      have hEach : heightEach children ≤ limit - depth := by
        apply heightEach_le_iff.mpr
        intro child hChild
        have hChildHeight := h.2 child hChild
        omega
      omega
    · intro h
      refine ⟨by omega, ?_⟩
      intro child hChild
      have hLevels := heightEach_le_iff.mp (Nat.le_refl (heightEach children)) child hChild
      omega

/-- A listing goes down one level at a time. If it does not start below a limit by more than
    one level, then the first row below the limit is one level below it. -/
theorem depth_of_find?_subtrees {tree : Tree α} {depth limit : Nat} (hStart : depth ≤ limit + 1)
    {row : Nat × Tree α} (h : (tree.subtrees depth).find? (limit < ·.1) = some row) :
    row.1 = limit + 1 := by
  induction tree using Tree.induction generalizing depth with
  | node item children ih =>
    rw [subtrees_eq] at h
    by_cases hRoot : limit < depth
    · have hRow : (depth, ⟨item, children⟩) = row := by simpa [hRoot] using h
      rw [← hRow]
      show depth = limit + 1
      omega
    · -- the root is not below the limit, so the row is found in the listing of a child
      have hFound : children.findSome? (fun child =>
          (child.subtrees (depth + 1)).find? (limit < ·.1)) = some row := by
        simpa [hRoot, List.find?_flatMap] using h
      obtain ⟨child, hChild, hRow⟩ := List.exists_of_findSome?_eq_some hFound
      apply ih child hChild _ hRow
      omega

end Tree

/-! ## §2 The first row that is too deep -/

namespace DumpOptions

/-- The limit leaves room for all levels of the tree. -/
def Allows (options : DumpOptions) (root : Node) : Prop :=
  ∀ limit ∈ options.maxDepth, root.height ≤ limit + 1

instance (options : DumpOptions) (root : Node) : Decidable (options.Allows root) :=
  inferInstanceAs (Decidable (∀ limit ∈ options.maxDepth, root.height ≤ limit + 1))

/-- The same options without a limit. -/
def unlimited (options : DumpOptions) : DumpOptions := { options with maxDepth := none }

section

variable {options : DumpOptions} {root : Node}

theorem excess?_of_allows (h : options.Allows root) :
    options.excess? (root.dumpRows 0) = none := by
  unfold excess?
  split
  · rfl
  · rename_i limit hLimit
    have hLevels : 0 + root.height ≤ limit + 1 := by simpa using h limit hLimit
    have hRows := (root.forall_subtrees_le_iff 0 limit).mpr hLevels
    have hNone : (root.dumpRows 0).find? (limit < ·.depth) = none := by
      apply List.find?_eq_none.mpr
      intro row hRow
      obtain ⟨subtree, hSubtree, rfl⟩ := List.mem_map.mp hRow
      show ¬ decide (limit < subtree.1) = true
      simpa using hRows subtree hSubtree
    simp [hNone]

/-- In a tree with too many levels there is a first row one level below the limit, and all rows
    before it are within the limit. -/
theorem exists_of_not_allows (h : ¬ options.Allows root) :
    ∃ limit before row after, options.maxDepth = some limit ∧
      root.dumpRows 0 = before ++ row :: after ∧ row.depth = limit + 1 ∧
      ∀ earlier ∈ before, earlier.depth ≤ limit := by
  simp only [Allows, Option.mem_def, Classical.not_forall, Nat.not_le] at h
  obtain ⟨limit, hLimit, hHeight⟩ := h
  cases hFound : (root.subtrees 0).find? (limit < ·.1) with
  | none =>
    -- then the limit would have room for all levels
    have hRows : ∀ row ∈ root.subtrees 0, row.1 ≤ limit := by
      simpa using List.find?_eq_none.mp hFound
    have hLevels := (root.forall_subtrees_le_iff 0 limit).mp hRows
    omega
  | some row =>
    have hDepth := Tree.depth_of_find?_subtrees (Nat.zero_le _) hFound
    obtain ⟨-, before, after, hSplit, hBefore⟩ := List.find?_eq_some_iff_append.mp hFound
    let toRow (row : Nat × Node) : DumpRow := .ofNode row.1 row.2
    refine ⟨limit, before.map toRow, toRow row, after.map toRow, hLimit, ?_, hDepth, ?_⟩
    · show (root.subtrees 0).map toRow = _
      rw [hSplit, List.map_append, List.map_cons]
    · intro earlier hEarlier
      obtain ⟨above, hAbove, rfl⟩ := List.mem_map.mp hEarlier
      simpa [toRow, DumpRow.ofNode] using hBefore above hAbove

end

section

variable {options : DumpOptions} {limit : Nat} {before : List DumpRow} {row : DumpRow}

theorem excess?_append (hLimit : options.maxDepth = some limit) (hRow : row.depth = limit + 1)
    (hBefore : ∀ earlier ∈ before, earlier.depth ≤ limit) (after : List DumpRow) :
    options.excess? (before ++ row :: after) = some (.tooDeep (limit + 1) limit) := by
  have hNone : before.find? (limit < ·.depth) = none := by simpa using hBefore
  simp [excess?, hLimit, List.find?_append, hNone, hRow]

theorem accepted_append (hLimit : options.maxDepth = some limit) (hRow : row.depth = limit + 1)
    (hBefore : ∀ earlier ∈ before, earlier.depth ≤ limit) (after : List DumpRow) :
    options.accepted (before ++ row :: after) = before := by
  have hFits : ∀ earlier ∈ before, earlier.fits options = true := by
    simpa [DumpRow.fits, hLimit] using hBefore
  have hNot : row.fits options = false := by simp [DumpRow.fits, hLimit, hRow]
  simp [accepted, List.takeWhile_append_of_pos hFits, hNot]

end

end DumpOptions

/-! ## §3 Dumps in memory -/

variable {δ : Type}

/-- What the three dumps in memory give: the state of a list that lines are added to, a text,
    and the text that the registry of formats has for the name `dump`. -/
structure MemoryDumps (δ : Type) where
  listed : Except DumpError δ × List String
  text : Except DumpError String
  formatted : Except FormatError String

/-- The dumps of a tree in memory. -/
def Node.memoryDumps (options : DumpOptions) (root : Node) (data : δ) (start : List String) :
    MemoryDumps δ where
  listed := (dumpWith LineSink.list options root data start).value
  text := (dumpToString options root).value
  formatted := ((Registry.withOptions options).value.serialize root "dump").value

/-- Dumps succeed with the lines of all rows if none of the rows is too deep. -/
theorem Node.memoryDumps_of_excess?_eq_none {options : DumpOptions} {root : Node}
    (h : options.excess? (root.dumpRows 0) = none) (data : δ) (start : List String) :
    root.memoryDumps options data start =
      ⟨(.ok data, start ++ (root.dumpRows 0).map (DumpRow.line options.indentUnit)),
        .ok (DumpRow.text options.indentUnit (root.dumpRows 0)),
        .ok (DumpRow.text options.indentUnit (root.dumpRows 0))⟩ := by
  have hText : (dumpToString options root).value =
      .ok (DumpRow.text options.indentUnit (root.dumpRows 0)) := by
    simp [dumpToString_value, h]
  have hFormatted : ((Registry.withOptions options).value.serialize root "dump").value =
      .ok (DumpRow.text options.indentUnit (root.dumpRows 0)) := by
    rw [Registry.serialize_withOptions, if_pos rfl, hText]
    rfl
  simp [memoryDumps, dumpWith_list, DumpOptions.conclude, DumpOptions.accepted_of_excess? h, h,
    hText, hFormatted]

/-- Dumps fail with the error of the first row that is too deep. -/
theorem Node.memoryDumps_of_excess?_eq_some {options : DumpOptions} {root : Node}
    {error : DumpError} (h : options.excess? (root.dumpRows 0) = some error) (data : δ)
    (start : List String) :
    root.memoryDumps options data start =
      ⟨(.error error, start ++
          (options.accepted (root.dumpRows 0)).map (DumpRow.line options.indentUnit)),
        .error error, .error (.dump error)⟩ := by
  have hText : (dumpToString options root).value = .error error := by
    simp [dumpToString_value, h]
  have hFormatted : ((Registry.withOptions options).value.serialize root "dump").value =
      .error (.dump error) := by
    rw [Registry.serialize_withOptions, if_pos rfl, hText]
    rfl
  simp [memoryDumps, dumpWith_list, DumpOptions.conclude, h, hText, hFormatted]

/-- The dump under the default options succeeds for every tree. -/
theorem dumpWith_default (root : Node) :
    (dumpWith LineSink.list {} root () []).value = (.ok (), (dumpLines root).value) := by
  have hOk : (dumpWith LineSink.list {} root () []).value.1 = .ok () := by
    rw [dumpWith_list]
    rfl
  rw [← hOk]
  rfl

/-- **The depth limit, exactly.** A dump in memory succeeds if and only if there is no limit or
    the tree has at most one level more than the limit says, and then it gives what it gives
    without a limit: the lines of all rows. So the dump under the default options always
    succeeds. In any other tree there is a first row one level below the limit. The error tells
    the depth of that row, and the lines in memory are those of the rows before it, which are
    never all lines of the tree. -/
theorem dump_depth_guard (options : DumpOptions) (root : Node) (data : δ) (start : List String) :
    let rows := root.dumpRows 0
    let line := DumpRow.line options.indentUnit
    let dumps := root.memoryDumps options data start
    let full := root.memoryDumps options.unlimited data start
    ((∃ result, dumps.listed.1 = .ok result) ↔ options.Allows root) ∧
    ((∃ result, dumps.text = .ok result) ↔ options.Allows root) ∧
    ((∃ result, dumps.formatted = .ok result) ↔ options.Allows root) ∧
    full = ⟨(.ok data, start ++ rows.map line),
      .ok (String.join ((rows.map line).map (· ++ "\n"))),
      .ok (String.join ((rows.map line).map (· ++ "\n")))⟩ ∧
    (options.Allows root → dumps = full) ∧
    (dumpWith LineSink.list {} root () []).value = (.ok (), (dumpLines root).value) ∧
    (¬ options.Allows root → ∃ limit before row after,
      options.maxDepth = some limit ∧ rows = before ++ row :: after ∧ row.depth = limit + 1 ∧
      (∀ earlier ∈ before, earlier.depth ≤ limit) ∧
      dumps = ⟨(.error (.tooDeep (limit + 1) limit), start ++ before.map line),
        .error (.tooDeep (limit + 1) limit), .error (.dump (.tooDeep (limit + 1) limit))⟩ ∧
      (dumpWith LineSink.text options root data "").value.2 =
        String.join ((before.map line).map (· ++ "\n")) ∧
      before.map line <+: rows.map line ∧ before.map line ≠ rows.map line) := by
  intro rows line dumps full
  have hFull : full = ⟨(.ok data, start ++ rows.map line),
      .ok (String.join ((rows.map line).map (· ++ "\n"))),
      .ok (String.join ((rows.map line).map (· ++ "\n")))⟩ := by
    rw [← DumpRow.text_eq_join_lines]
    exact Node.memoryDumps_of_excess?_eq_none rfl data start
  have hSame : options.Allows root → dumps = full := by
    intro hAllows
    have hNone := DumpOptions.excess?_of_allows hAllows
    rw [hFull, ← DumpRow.text_eq_join_lines]
    exact Node.memoryDumps_of_excess?_eq_none hNone data start
  by_cases hAllows : options.Allows root
  · rw [hSame hAllows, hFull]
    simp [hAllows, dumpWith_default]
  · obtain ⟨limit, before, row, after, hLimit, hRows, hRow, hBefore⟩ :=
      DumpOptions.exists_of_not_allows hAllows
    -- the rows before the first one that is too deep are those that reach a sink
    have hExcess := DumpOptions.excess?_append hLimit hRow hBefore after
    have hAccepted := DumpOptions.accepted_append hLimit hRow hBefore after
    rw [← hRows] at hExcess hAccepted
    have hDumps : dumps = ⟨(.error (.tooDeep (limit + 1) limit), start ++ before.map line),
        .error (.tooDeep (limit + 1) limit), .error (.dump (.tooDeep (limit + 1) limit))⟩ := by
      rw [← hAccepted]
      exact Node.memoryDumps_of_excess?_eq_some hExcess data start
    have hLines : rows.map line = before.map line ++ (row :: after).map line := by
      show (root.dumpRows 0).map line = _
      rw [hRows, List.map_append]
    refine ⟨?_, ?_, ?_, hFull, hSame, dumpWith_default root, ?_⟩
    · simp [hDumps, hAllows]
    · simp [hDumps, hAllows]
    · simp [hDumps, hAllows]
    · intro _
      refine ⟨limit, before, row, after, hLimit, hRows, hRow, hBefore, hDumps, ?_, ?_, ?_⟩
      · rw [← DumpRow.text_eq_join_lines, dumpWith_text, hAccepted]
        simp
      · rw [hLines]
        apply List.prefix_append
      · rw [hLines]
        simp

/-- The row below the limit may come after any number of rows within it, and before others. -/
example :
    (Node.memoryDumps ⟨" ", some 1⟩
      ⟨.start, [⟨.add, []⟩, ⟨.multiply, [⟨.other "x", []⟩]⟩, ⟨.add, []⟩]⟩ () []).listed =
        (.error (.tooDeep 2 1), ["Start", " Add", " Multiply"]) := by rfl

end Outline
