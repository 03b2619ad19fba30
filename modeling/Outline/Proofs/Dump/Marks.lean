import Outline.Proofs.Dump.Faithful
import Outline.Proofs.Tree.Paths
import Outline.Proofs.Tree.Traversal

/-!
# Marks in a dump

The line of a node without an operation of its own ends with a mark. Names and the indentation
unit are arbitrary texts, which may contain the mark or be the mark, but no other line ends with
it. A node with the mark is dumped like any other in all other respects: the lines of its
descendants come right behind its own, each of them one unit deeper than that of its parent.

- `Kind.suffix_indented_iff` — which lines end with the mark
- `Node.getElem?_lines` — the line of the node at a path
- `Node.dump_marks` — marks and descendants in the lines of a dump
-/

namespace Outline

/-! ## §1 Lines that end with the mark -/

/-- A line ends with the mark exactly if its kind has no operation of its own, whatever the unit
    and the names are. -/
theorem Kind.suffix_indented_iff (unit : String) (depth : Nat) (kind : Kind) :
    fallbackSuffix.toList <:+ (indented unit depth kind.lineText).toList ↔
      ∃ name, kind = .other name := by
  constructor
  · intro hEnd
    cases hSpecial : kind.isSpecialized with
    | true =>
      -- the end of the label differs from that of the mark, so no text in front of it matters
      refine absurd ?_ (not_suffix_label hSpecial (String.join (List.replicate depth unit)).toList)
      simpa [indented, lineText, hSpecial] using hEnd
    | false =>
      cases kind with
      | other name => exact ⟨name, rfl⟩
      | start | add | multiply | identifier | integer => cases hSpecial
  · rintro ⟨name, rfl⟩
    refine ⟨(String.join (List.replicate depth unit) ++ name).toList, ?_⟩
    simp [indented, lineText, isSpecialized, label, Kind.name]

/-! ## §2 Lines and paths -/

/-- Paths lead to the nodes in pre-order. -/
theorem Tree.map_at?_paths {α : Type} (tree : Tree α) :
    tree.paths.map tree.at? = tree.preorder.map some := by
  have hNodes := congrArg (List.map Prod.snd) (tree.map_paths 0)
  rw [List.map_map, List.map_map] at hNodes
  rw [Tree.preorder, List.map_map]
  exact hNodes

namespace Node

/-- The line of the node at a path is indented by the length of the path. -/
theorem getElem?_lines (unit : String) {root node : Node} {path : List Nat} {i : Nat}
    (hPath : root.paths[i]? = some path) (hNode : root.at? path = some node) :
    ((root.dumpRows 0).map (DumpRow.line unit))[i]? =
      some (indented unit path.length node.item.lineText) := by
  have hRow := congrArg (·[i]?) (root.map_paths 0)
  simp only [List.getElem?_map, hPath, hNode, Option.map_some, Nat.zero_add] at hRow
  obtain ⟨⟨depth, found⟩, hFound, hSame⟩ := Option.map_eq_some_iff.mp hRow.symm
  cases hSame
  rw [map_line_dumpRows, Tree.rows, List.map_map, List.getElem?_map, hFound]
  rfl

/-- The line of the node that is listed at a place ends with the mark exactly if the kind of the
    node has no operation of its own. -/
theorem suffix_line_iff (unit : String) {root node : Node} {line : String} {i : Nat}
    (hLine : ((root.dumpRows 0).map (DumpRow.line unit))[i]? = some line)
    (hNode : root.preorder[i]? = some node) :
    fallbackSuffix.toList <:+ line.toList ↔ ∃ name, node.item = .other name := by
  rw [map_line_dumpRows, Tree.rows, List.map_map, List.getElem?_map] at hLine
  rw [Tree.preorder, List.getElem?_map] at hNode
  obtain ⟨row, hRow, rfl⟩ := Option.map_eq_some_iff.mp hLine
  rw [hRow] at hNode
  cases hNode
  exact Kind.suffix_indented_iff unit row.1 row.2.item

/-! ## §3 Dumps -/

/-- **Marks in a dump.** Without a depth limit, a dump has one line for each node in pre-order. A
    line ends with the mark exactly if the kind of its node has no operation of its own, whatever
    the unit and the names are. The lines of all descendants of a node, marked or not, come
    behind its line before that of any other node, and each of them stands behind the line of the
    parent and is indented by one more unit. -/
theorem dump_marks (unit : String) (root : Node) :
    ∃ lines : List String,
      (∀ {δ : Type} (data : δ) (start : List String),
        (dumpWith LineSink.list ⟨unit, none⟩ root data start).value = (.ok data, start ++ lines)) ∧
      (dumpToString ⟨unit, none⟩ root).value = .ok (String.join (lines.map (· ++ "\n"))) ∧
      lines.length = root.preorder.length ∧
      (∀ (i : Nat) line node, lines[i]? = some line → root.preorder[i]? = some node →
        (fallbackSuffix.toList <:+ line.toList ↔ ∃ name, node.item = .other name)) ∧
      root.paths.map root.at? = root.preorder.map some ∧
      ∀ (i : Nat) path node way position below,
        root.paths[i]? = some path → root.at? path = some node →
        node.at? (way ++ [position]) = some below →
        ∃ (k j : Nat) (parent : Node),
          i ≤ k ∧ k < j ∧ j < i + node.count ∧ node.at? way = some parent ∧
          root.paths[k]? = some (path ++ way) ∧
          root.paths[j]? = some (path ++ (way ++ [position])) ∧
          lines[k]? = some (indented unit (path ++ way).length parent.item.lineText) ∧
          lines[j]? = some (indented unit ((path ++ way).length + 1) below.item.lineText) := by
  have hAccepted : DumpOptions.accepted ⟨unit, none⟩ (root.dumpRows 0) = root.dumpRows 0 :=
    DumpOptions.accepted_of_excess? rfl
  refine ⟨(root.dumpRows 0).map (DumpRow.line unit), ?_, ?_, ?_, fun _ _ _ => suffix_line_iff unit,
    root.map_at?_paths, ?_⟩
  · intro δ data start
    rw [dumpWith_list, hAccepted]
    rfl
  · rw [dumpToString_value, ← DumpRow.text_eq_join_lines]
    rfl
  · rw [List.length_map, length_dumpRows, Tree.preorder, List.length_map, Tree.length_subtrees]
  · intro i path node way position below hPath hNode hBelow
    obtain ⟨k, j, hFrom, hBehind, hUpTo, hParentPath, hBelowPath⟩ :=
      Tree.exists_getElem?_paths_below hPath hNode hBelow
    have hParent := hBelow
    rw [Tree.at?_append, Option.bind_eq_some_iff] at hParent
    obtain ⟨parent, hParent, -⟩ := hParent
    -- in the whole tree the two nodes are found behind the path to the node above them
    have hInRoot (way : List Nat) : root.at? (path ++ way) = node.at? way := by
      rw [Tree.at?_append, hNode, Option.bind_some]
    have hParentLine := getElem?_lines unit hParentPath ((hInRoot _).trans hParent)
    have hBelowLine := getElem?_lines unit hBelowPath ((hInRoot _).trans hBelow)
    rw [← List.append_assoc, List.length_append, List.length_singleton] at hBelowLine
    exact ⟨k, j, parent, hFrom, hBehind, hUpTo, hParent, hParentPath, hBelowPath, hParentLine,
      hBelowLine⟩

/-- The unit and the name of the identifier are the mark itself. Still only the line of the root
    ends with it, and the line of the identifier has the unit once in front of its text. -/
theorem dump_marks_unit_is_mark :
    let root : Node := ⟨.other "x", [⟨.identifier fallbackSuffix, []⟩]⟩
    ∃ first second : String,
      (dumpWith LineSink.list ⟨fallbackSuffix, none⟩ root () []).value =
        (.ok (), [first, second]) ∧
      fallbackSuffix.toList <:+ first.toList ∧ ¬ fallbackSuffix.toList <:+ second.toList ∧
      first = indented fallbackSuffix 0 ("x" ++ fallbackSuffix) ∧
      second = indented fallbackSuffix 1 ("Identifier(" ++ fallbackSuffix ++ ")") := by
  intro root
  obtain ⟨lines, hDump, -, hLength, hMarks, -, hBelow⟩ := dump_marks fallbackSuffix root
  obtain ⟨first, second, rfl⟩ : ∃ first second, lines = [first, second] :=
    List.length_eq_two.mp hLength
  obtain ⟨k, j, parent, -, hBehind, hUpTo, hParent, -, -, hParentLine, hBelowLine⟩ :=
    hBelow 0 [] root [] 0 ⟨.identifier fallbackSuffix, []⟩ rfl rfl rfl
  -- there are only two places for the two lines
  have hTwo : root.count = 2 := rfl
  obtain ⟨rfl, rfl⟩ : k = 0 ∧ j = 1 := by omega
  cases hParent
  refine ⟨first, second, hDump () [], ?_, ?_, ?_, ?_⟩
  · exact (hMarks 0 first root rfl rfl).mpr ⟨"x", rfl⟩
  · intro hEnd
    obtain ⟨name, hName⟩ := (hMarks 1 second _ rfl rfl).mp hEnd
    cases hName
  · exact Option.some.inj hParentLine
  · simpa [Kind.lineText, Kind.label, Kind.isSpecialized] using hBelowLine

end Node

end Outline
