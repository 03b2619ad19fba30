import Outline.Proofs.Dump.Limit
import Outline.Proofs.Text.Lines
import Outline.Proofs.Tree.Label
import Outline.Proofs.Tree.Rows

/-!
# The dump shows the tree

A dump can be read back, in principle, in three steps. The text behind the indentation of a
line tells the kind of the node, the indentation tells its depth, and kinds and depths in
pre-order tell the tree. The second step needs a unit that is not taken for the beginning of
a text; a dump that is one text needs names without line breaks in addition.

- `Kind.lineText_injective` — texts of lines and kinds
- `indented_injective` — indentations and depths
- `Node.dump_injective` — dumps and trees
-/

namespace Outline

/-! ## §1 Texts of lines -/

namespace Kind

/-- The text of a line behind its indentation. -/
def lineText (kind : Kind) : String :=
  kind.label ++ if kind.isSpecialized then "" else fallbackSuffix

/-- The name that a kind carries, if it carries one. -/
def payload? : Kind → Option String
  | identifier name | other name => some name
  | _ => none

/-- The label of a specialized kind does not end as a marked line does, whatever stands in
    front of it. -/
theorem not_suffix_label {kind : Kind} (h : kind.isSpecialized = true) (before : List Char) :
    ¬ fallbackSuffix.toList <:+ before ++ kind.label.toList := by
  -- from the end on, the last two characters differ
  rw [← List.reverse_prefix]
  cases kind with
  | other name => cases h
  | start | add | multiply | identifier | integer => simp [label, name, fallbackSuffix]

/-- Different kinds have lines of different texts. -/
theorem lineText_injective : Function.Injective lineText := by
  intro a b h
  unfold lineText at h
  cases ha : a.isSpecialized <;> cases hb : b.isSpecialized
  case false.false =>
    cases a <;> cases b <;> simp_all [isSpecialized, label, Kind.name]
  case false.true =>
    -- only the first text ends with the mark
    have hEnd : fallbackSuffix.toList <:+ [] ++ b.label.toList := by
      refine ⟨a.label.toList, ?_⟩
      simpa [ha, hb] using congrArg String.toList h
    exact absurd hEnd (not_suffix_label hb [])
  case true.false =>
    have hEnd : fallbackSuffix.toList <:+ [] ++ a.label.toList := by
      refine ⟨b.label.toList, ?_⟩
      simpa [ha, hb] using congrArg String.toList h.symm
    exact absurd hEnd (not_suffix_label ha [])
  case true.true =>
    apply label_injective_of_isSpecialized ha hb
    simpa [ha, hb] using h

theorem lineBreak_notMem_lineText {kind : Kind}
    (h : ∀ name ∈ kind.payload?, '\n' ∉ name.toList) : '\n' ∉ kind.lineText.toList := by
  cases kind with
  | start | add | multiply => simp [lineText, label, Kind.name, isSpecialized]
  | identifier name =>
    have hName := h name rfl
    simp [lineText, label, isSpecialized, hName]
  | other name =>
    have hName := h name rfl
    simp [lineText, label, Kind.name, isSpecialized, fallbackSuffix, hName]
  | integer value =>
    have hDigits : '\n' ∉ (toString value.toInt).toList := by
      rw [Number.toList_toString_int]
      intro hMem
      split at hMem
      · exact absurd (Number.isDigit_toDigits _ _ hMem) (by decide)
      · rcases List.mem_cons.mp hMem with hSign | hMem
        · exact absurd hSign (by decide)
        · exact absurd (Number.isDigit_toDigits _ _ hMem) (by decide)
    simpa [lineText, label, isSpecialized] using hDigits

end Kind

/-! ## §2 Indentations -/

/-- A text behind its indentation. -/
def indented (unit : String) (depth : Nat) (text : String) : String :=
  String.join (List.replicate depth unit) ++ text

theorem toList_indented_zero (unit text : String) :
    (indented unit 0 text).toList = text.toList := by
  simp [indented]

theorem toList_indented_succ (unit : String) (depth : Nat) (text : String) :
    (indented unit (depth + 1) text).toList = unit.toList ++ (indented unit depth text).toList := by
  simp [indented, List.replicate_succ]

/-- An indented line tells the depth and the text, if no text begins with the unit. -/
theorem indented_injective {unit a b : String} (ha : ¬ unit.toList <+: a.toList)
    (hb : ¬ unit.toList <+: b.toList) {m n : Nat} (h : indented unit m a = indented unit n b) :
    m = n ∧ a = b := by
  rw [← String.toList_inj] at h
  -- unit by unit; where one indentation ends, the text behind it would have to begin with the unit
  induction m generalizing n with
  | zero =>
    rw [toList_indented_zero] at h
    cases n with
    | zero =>
      rw [toList_indented_zero] at h
      exact ⟨rfl, String.toList_inj.mp h⟩
    | succ n =>
      rw [toList_indented_succ] at h
      exact absurd ⟨_, h.symm⟩ ha
  | succ m ih =>
    rw [toList_indented_succ] at h
    cases n with
    | zero =>
      rw [toList_indented_zero] at h
      exact absurd ⟨_, h⟩ hb
    | succ n =>
      rw [toList_indented_succ] at h
      obtain ⟨hDepth, hText⟩ := ih (List.append_cancel_left h)
      exact ⟨congrArg (· + 1) hDepth, hText⟩

/-! ## §3 Lines -/

/-- The line of a kind at a depth. -/
def rowLine (unit : String) (row : Nat × Kind) : String := indented unit row.1 row.2.lineText

/-- The lines of a dump, read off the kinds and depths. -/
theorem Node.map_line_dumpRows (unit : String) (root : Node) :
    (root.dumpRows 0).map (DumpRow.line unit) = root.rows.map (rowLine unit) := by
  simp only [Node.dumpRows, Tree.rows, List.map_map]
  apply List.map_congr_left
  intro row _
  cases hSpecial : row.2.item.isSpecialized <;>
    simp [DumpRow.line, DumpRow.ofNode, rowLine, indented, Kind.lineText, Node.label, hSpecial,
      String.append_assoc]

/-- No line of the tree goes on with the unit behind its indentation. -/
def Node.Unambiguous (unit : String) (root : Node) : Prop :=
  ∀ row ∈ root.rows, ¬ unit.toList <+: row.2.lineText.toList

/-- Neither identifiers nor the names of other kinds have line breaks. -/
def Node.NamesOnOneLine (root : Node) : Prop :=
  ∀ row ∈ root.rows, ∀ name ∈ row.2.payload?, '\n' ∉ name.toList

instance (unit : String) (root : Node) : Decidable (root.Unambiguous unit) :=
  inferInstanceAs (Decidable (∀ row ∈ root.rows, ¬ unit.toList <+: row.2.lineText.toList))

instance (root : Node) : Decidable root.NamesOnOneLine :=
  inferInstanceAs (Decidable (∀ row ∈ root.rows, ∀ name ∈ row.2.payload?, '\n' ∉ name.toList))

theorem eq_of_map_rowLine_eq {unit : String} {rows others : List (Nat × Kind)}
    (hRows : ∀ row ∈ rows, ¬ unit.toList <+: row.2.lineText.toList)
    (hOthers : ∀ row ∈ others, ¬ unit.toList <+: row.2.lineText.toList)
    (h : rows.map (rowLine unit) = others.map (rowLine unit)) : rows = others := by
  induction rows generalizing others with
  | nil =>
    cases others with
    | nil => rfl
    | cons other rest => cases h
  | cons row rest ih =>
    cases others with
    | nil => cases h
    | cons other otherRest =>
      rw [List.forall_mem_cons] at hRows hOthers
      obtain ⟨hLine, hLines⟩ := List.cons.inj h
      obtain ⟨hDepth, hText⟩ := indented_injective hRows.1 hOthers.1 hLine
      have hKind := Kind.lineText_injective hText
      rw [ih hRows.2 hOthers.2 hLines, Prod.ext hDepth hKind]

/-- Trees with the same lines are the same. -/
theorem Node.eq_of_lines_eq {unit : String} {s t : Node} (hs : s.Unambiguous unit)
    (ht : t.Unambiguous unit)
    (h : (s.dumpRows 0).map (DumpRow.line unit) = (t.dumpRows 0).map (DumpRow.line unit)) :
    s = t := by
  rw [Node.map_line_dumpRows, Node.map_line_dumpRows] at h
  apply Tree.rows_injective
  exact eq_of_map_rowLine_eq hs ht h

/-! ## §4 Texts of several lines -/

theorem lineBreak_notMem_rowLine {unit : String} (hUnit : '\n' ∉ unit.toList) {row : Nat × Kind}
    (h : ∀ name ∈ row.2.payload?, '\n' ∉ name.toList) : '\n' ∉ (rowLine unit row).toList := by
  have hText := Kind.lineBreak_notMem_lineText h
  simp only [rowLine, indented, String.toList_append, String.toList_join, List.mem_append,
    List.mem_flatMap, not_or]
  refine ⟨?_, hText⟩
  rintro ⟨part, hPart, hMem⟩
  rw [List.eq_of_mem_replicate hPart] at hMem
  exact hUnit hMem

theorem Node.lineBreak_notMem_line {unit : String} (hUnit : '\n' ∉ unit.toList) {root : Node}
    (h : root.NamesOnOneLine) :
    ∀ line ∈ (root.dumpRows 0).map (DumpRow.line unit), '\n' ∉ line.toList := by
  rw [Node.map_line_dumpRows]
  intro line hLine
  obtain ⟨row, hRow, rfl⟩ := List.mem_map.mp hLine
  exact lineBreak_notMem_rowLine hUnit (h row hRow)

/-! ## §5 Dumps -/

/-- **The dump shows the tree.** Without a depth limit, and if no line goes on with the unit
    behind its indentation, two trees whose dumps into a list are the same lines are the same
    tree. If the unit and the names in both trees have no line breaks, then the dumps as text
    suffice. -/
theorem Node.dump_injective {unit : String} {s t : Node}
    (hs : s.Unambiguous unit) (ht : t.Unambiguous unit) :
    (∀ {δ : Type} (data other : δ) (start : List String),
      (dumpWith LineSink.list ⟨unit, none⟩ s data start).value.2 =
        (dumpWith LineSink.list ⟨unit, none⟩ t other start).value.2 → s = t) ∧
    ('\n' ∉ unit.toList → s.NamesOnOneLine → t.NamesOnOneLine →
      (dumpToString ⟨unit, none⟩ s).value = (dumpToString ⟨unit, none⟩ t).value → s = t) := by
  have hAccepted (root : Node) :
      DumpOptions.accepted ⟨unit, none⟩ (root.dumpRows 0) = root.dumpRows 0 :=
    DumpOptions.accepted_of_excess? rfl
  constructor
  · intro δ data other start h
    rw [dumpWith_list, dumpWith_list, hAccepted, hAccepted] at h
    exact Node.eq_of_lines_eq hs ht (List.append_cancel_left h)
  · intro hLine hsNames htNames h
    rw [dumpToString_value, dumpToString_value] at h
    have hText := Except.ok.inj h
    apply Node.eq_of_lines_eq hs ht
    apply eq_of_join_lines_eq (Node.lineBreak_notMem_line hLine hsNames)
      (Node.lineBreak_notMem_line hLine htNames)
    simpa [DumpRow.text, Function.comp_def] using hText

/-- A kind that is only named like an identifier is not taken for one. -/
theorem Node.dump_injective_named_like_identifier :
    let s : Node := ⟨.add, [⟨.other "Identifier(x)", [⟨.integer (-5), []⟩]⟩]⟩
    let t : Node := ⟨.add, [⟨.identifier "x", [⟨.integer (-5), []⟩]⟩]⟩
    (s.Unambiguous " " ∧ t.Unambiguous " " ∧ s.NamesOnOneLine ∧ t.NamesOnOneLine) ∧
      (dumpWith LineSink.list ⟨" ", none⟩ s () []).value.2 ≠
        (dumpWith LineSink.list ⟨" ", none⟩ t () []).value.2 ∧
      (dumpToString ⟨" ", none⟩ s).value ≠ (dumpToString ⟨" ", none⟩ t).value := by
  intro s t
  have hs : s.Unambiguous " " := by decide
  have ht : t.Unambiguous " " := by decide
  have hsNames : s.NamesOnOneLine := by decide
  have htNames : t.NamesOnOneLine := by decide
  have hDiffer : s ≠ t := by decide
  have hDump := Node.dump_injective hs ht
  refine ⟨⟨hs, ht, hsNames, htNames⟩, ?_, ?_⟩
  · intro h
    exact hDiffer (hDump.1 () () [] h)
  · intro h
    exact hDiffer (hDump.2 (by decide) hsNames htNames h)

end Outline
