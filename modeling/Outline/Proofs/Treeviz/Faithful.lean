import Mathlib.Data.Prod.Basic
import Outline.Proofs.Text.Lines
import Outline.Proofs.Tree.Label
import Outline.Proofs.Tree.Rows
import Outline.Proofs.Treeviz.Records

/-!
# Box drawings show the tree

A line of a drawing is read from the left. Cells and branches begin with characters that no icon
is, so they are counted up to the icon, and their number is the depth of the node. The icon tells
the constructor of the kind, and what comes behind it is the label, which may hold anything but
line breaks. A label that is cut tells only its beginning, but the shape and the constructors are
still there.

- `Treeviz.readLead_lead` — what stands in front of an icon tells the depth
- `Treeviz.icon_append_inj` — an icon tells the constructor
- `Treeviz.textRows_eq_of_drawing_eq` — drawings and rows
- `Treeviz.map_ctorIdx_eq_of_textRows_eq`, `Treeviz.eq_of_textRows_eq` — rows and trees
- `Node.drawing_faithful` — drawings and trees
-/

namespace Outline

/-! ## §1 Labels -/

/-- No label in the tree has a line break. -/
def Node.LabelsOnOneLine (root : Node) : Prop :=
  ∀ row ∈ root.rows, '\n' ∉ row.2.label.toList

/-- No label in the tree has more than thirty characters. -/
def Node.LabelsFit (root : Node) : Prop :=
  ∀ row ∈ root.rows, row.2.label.length ≤ 30

instance (root : Node) : Decidable root.LabelsOnOneLine :=
  inferInstanceAs (Decidable (∀ row ∈ root.rows, '\n' ∉ row.2.label.toList))

instance (root : Node) : Decidable root.LabelsFit :=
  inferInstanceAs (Decidable (∀ row ∈ root.rows, row.2.label.length ≤ 30))

namespace Treeviz

/-! ## §2 Reading a line -/

/-- The number of cells and branches at the beginning of a line, and what follows them. -/
def readLead : List Char → Nat × List Char
  | ' ' :: ' ' :: rest | '│' :: ' ' :: rest => ((readLead rest).1 + 1, (readLead rest).2)
  | '└' :: '─' :: ' ' :: rest | '├' :: '─' :: ' ' :: rest => (1, rest)
  | rest => (0, rest)

/-- The depth that a line tells, and the text behind what stands for it. -/
def readLine (line : String) : Nat × String :=
  ((readLead line.toList).1, String.ofList (readLead line.toList).2)

/-- Icon and label of a kind. -/
def text (kind : Kind) : String := icon kind ++ " " ++ shown kind.label

theorem caption_eq (kind : Kind) : caption kind = text kind ++ "\n" := by
  rw [caption, text, shorten_labelWidth]

/-- No icon is taken for the beginning of a cell or of a branch. -/
theorem readLead_text (kind : Kind) : readLead (text kind).toList = (0, (text kind).toList) := by
  cases kind <;> simp [text, icon, readLead]

/-- There is a cell or a branch for each node on the way. -/
theorem readLead_lead (flags : List Bool) (kind : Kind) :
    readLead (lead flags ++ text kind).toList = (flags.length, (text kind).toList) := by
  rw [String.toList_append]
  fun_induction lead flags with
  | case1 => simp [readLead_text]
  | case2 isLast => cases isLast <;> simp [connector, readLead]
  | case3 isLast next rest ih => cases isLast <;> simp [rail, readLead, ih]

theorem readLine_lead (flags : List Bool) (kind : Kind) :
    readLine (lead flags ++ text kind) = (flags.length, text kind) := by
  simp only [readLine, readLead_lead, String.ofList_toList]

/-! ## §3 Icons and labels -/

theorem length_icon (kind : Kind) : (icon kind).toList.length = 1 := by
  cases kind <;> simp [icon]

/-- The icons in the order of the constructors that they stand for. -/
def icons : List String := ["⧉", "+", "×", "◦", "#", "○"]

theorem getElem?_icons (kind : Kind) : icons[kind.ctorIdx]? = some (icon kind) := by
  cases kind <;> rfl

theorem ctorIdx_eq_of_icon_eq {a b : Kind} (h : icon a = icon b) : a.ctorIdx = b.ctorIdx := by
  have hDistinct : icons.Nodup := by decide
  obtain ⟨hIdx, -⟩ := List.getElem?_eq_some_iff.mp (getElem?_icons a)
  apply (List.getElem?_inj hIdx hDistinct).mp
  rw [getElem?_icons, getElem?_icons, h]

/-- An icon ends after one character, whatever the label behind it begins with. -/
theorem icon_append_inj {a b : Kind} {label other : String}
    (h : icon a ++ " " ++ label = icon b ++ " " ++ other) :
    a.ctorIdx = b.ctorIdx ∧ label = other := by
  rw [← String.toList_inj] at h
  simp only [String.toList_append, List.append_assoc] at h
  obtain ⟨hIcon, hLabel⟩ := List.append_inj h (by rw [length_icon, length_icon])
  have hIdx := ctorIdx_eq_of_icon_eq (String.toList_inj.mp hIcon)
  exact ⟨hIdx, String.toList_inj.mp (List.append_cancel_left hLabel)⟩

/-- Icon and label of a kind, whatever the length of the label. -/
def fullText (kind : Kind) : String := icon kind ++ " " ++ kind.label

theorem fullText_injective : Function.Injective fullText := by
  intro a b h
  obtain ⟨hIdx, hLabel⟩ := icon_append_inj h
  exact Kind.eq_of_ctorIdx_eq hIdx hLabel

/-- A label that fits is shown as it is. -/
theorem text_of_fits {kind : Kind} (h : kind.label.length ≤ 30) : text kind = fullText kind := by
  rw [text, shown, if_pos h, fullText]

theorem lineBreak_notMem_shown {label : String} (h : '\n' ∉ label.toList) :
    '\n' ∉ (shown label).toList := by
  unfold shown
  split
  · exact h
  · have hTake : '\n' ∉ label.toList.take 30 := fun hMem => h (List.mem_of_mem_take hMem)
    simpa using hTake

theorem lineBreak_notMem_text {kind : Kind} (h : '\n' ∉ kind.label.toList) :
    '\n' ∉ (text kind).toList := by
  have hShown := lineBreak_notMem_shown h
  cases kind <;> simp [text, icon, hShown]

theorem lineBreak_notMem_lead (flags : List Bool) : '\n' ∉ (lead flags).toList := by
  fun_induction lead flags with
  | case1 => simp
  | case2 isLast => cases isLast <;> simp [connector]
  | case3 isLast next rest ih => cases isLast <;> simp [rail, ih]

/-! ## §4 Lines -/

/-- The line of the node at a path, without the line break. -/
def line (root : Node) (path : List Nat) : String :=
  lead (root.lasts path) ++ (root.at? path).elim "" fun node => text node.item

theorem drawing_eq_lines (root : Node) :
    root.drawing = String.join ((root.paths.map (line root)).map (· ++ "\n")) := by
  rw [drawing_eq, List.map_map]
  congr 1
  apply List.map_congr_left
  intro path hPath
  obtain ⟨node, hNode, -⟩ := Tree.exists_of_mem_paths hPath
  simp [line, captionAt, hNode, caption_eq, String.append_assoc]

/-- What the lines of a drawing tell: the depths of the nodes, and their icons and labels. -/
def textRows (root : Node) : List (Nat × String) := root.rows.map fun row => (row.1, text row.2)

theorem map_readLine_lines (root : Node) :
    (root.paths.map (line root)).map readLine = textRows root := by
  -- what a line is read as depends on the depth and on the node only
  have hRead : ∀ path ∈ root.paths, readLine (line root path) =
      (path.length, (root.at? path).elim "" fun node => text node.item) := by
    intro path hPath
    obtain ⟨node, hNode, -⟩ := Tree.exists_of_mem_paths hPath
    simp only [line, hNode, Option.elim_some, readLine_lead, Tree.length_lasts]
  have hPaths := congrArg (List.map fun row : Nat × Option Node =>
    (row.1, row.2.elim "" fun node => text node.item)) (root.map_paths 0)
  simp only [List.map_map, Function.comp_def, Nat.zero_add, Option.elim_some] at hPaths
  rw [List.map_map, textRows, Tree.rows, List.map_map]
  exact (List.map_congr_left hRead).trans hPaths

theorem lineBreak_notMem_line {root : Node} (h : root.LabelsOnOneLine) :
    ∀ text ∈ root.paths.map (line root), '\n' ∉ text.toList := by
  intro text hText
  obtain ⟨path, hPath, rfl⟩ := List.mem_map.mp hText
  obtain ⟨node, hNode, hMem⟩ := Tree.exists_of_mem_paths hPath
  have hLabel := h (path.length, node.item) (List.mem_map_of_mem hMem)
  have hLead := lineBreak_notMem_lead (root.lasts path)
  simp [line, hNode, hLead, lineBreak_notMem_text hLabel]

theorem textRows_eq_of_drawing_eq {s t : Node} (hs : s.LabelsOnOneLine) (ht : t.LabelsOnOneLine)
    (h : s.drawing = t.drawing) : textRows s = textRows t := by
  rw [drawing_eq_lines, drawing_eq_lines] at h
  have hLines := eq_of_join_lines_eq (lineBreak_notMem_line hs) (lineBreak_notMem_line ht) h
  rw [← map_readLine_lines, ← map_readLine_lines, hLines]

/-! ## §5 What the rows tell -/

theorem map_ctorIdx_eq_of_textRows_eq {s t : Node} (h : textRows s = textRows t) :
    s.map Kind.ctorIdx = t.map Kind.ctorIdx := by
  -- a text tells the constructor, so the rows of constructors can be read off those of texts
  have hFactors : Function.FactorsThrough Kind.ctorIdx text :=
    fun a b hText => (icon_append_inj hText).1
  obtain ⟨ctor, hCtor⟩ := (Function.factorsThrough_iff _).mp hFactors
  have hRows := congrArg (List.map fun row => (row.1, ctor row.2)) h
  apply Tree.rows_injective
  rw [Tree.rows_map, Tree.rows_map, hCtor]
  simpa [textRows, Function.comp_def] using hRows

theorem textRows_of_fits {root : Node} (h : root.LabelsFit) :
    textRows root = root.rows.map (Prod.map id fullText) := by
  apply List.map_congr_left
  intro row hRow
  rw [text_of_fits (h row hRow), Prod.map, id]

theorem eq_of_textRows_eq {s t : Node} (hs : s.LabelsFit) (ht : t.LabelsFit)
    (h : textRows s = textRows t) : s = t := by
  have hInjective : Function.Injective (Prod.map (@id Nat) fullText) :=
    Function.injective_id.prodMap fullText_injective
  rw [textRows_of_fits hs, textRows_of_fits ht] at h
  apply Tree.rows_injective
  exact hInjective.list_map h

end Treeviz

/-! ## §6 Drawings -/

/-- **Box drawings show the tree.** Two trees whose labels have no line breaks and whose drawings
    are the same text have the same shape, and at every position kinds that are made by the same
    constructor. If no label in either tree has more than thirty characters, the two trees are the
    same. -/
theorem Node.drawing_faithful {s t : Node} (hs : s.LabelsOnOneLine) (ht : t.LabelsOnOneLine)
    (h : s.drawing = t.drawing) :
    s.map Kind.ctorIdx = t.map Kind.ctorIdx ∧ (s.LabelsFit → t.LabelsFit → s = t) := by
  have hRows := Treeviz.textRows_eq_of_drawing_eq hs ht h
  refine ⟨Treeviz.map_ctorIdx_eq_of_textRows_eq hRows, ?_⟩
  intro hsFit htFit
  exact Treeviz.eq_of_textRows_eq hsFit htFit hRows

/-- Trees that differ only behind the thirtieth character of a label have the same drawing. Kinds
    with the same short label do not. -/
theorem Node.drawing_faithful_cut_and_short :
    (let s : Node := ⟨.add, [⟨.other "ConditionalAssignmentExpressionList", [⟨.integer 7, []⟩]⟩]⟩
     let t : Node := ⟨.add, [⟨.other "ConditionalAssignmentExpressionHead", [⟨.integer 7, []⟩]⟩]⟩
     (s.LabelsOnOneLine ∧ t.LabelsOnOneLine ∧ s.drawing = t.drawing ∧ s ≠ t) ∧
       s.map Kind.ctorIdx = t.map Kind.ctorIdx) ∧
    (let s : Node := ⟨.add, [⟨.other "Integer(7)", []⟩]⟩
     let t : Node := ⟨.add, [⟨.integer 7, []⟩]⟩
     (s.LabelsOnOneLine ∧ t.LabelsOnOneLine ∧ s.LabelsFit ∧ t.LabelsFit) ∧
       s.drawing ≠ t.drawing) := by
  constructor
  · intro s t
    have hs : s.LabelsOnOneLine := by decide
    have ht : t.LabelsOnOneLine := by decide
    have hSame : s.drawing = t.drawing := by decide +kernel
    have hDiffer : s ≠ t := by decide
    exact ⟨⟨hs, ht, hSame, hDiffer⟩, (Node.drawing_faithful hs ht hSame).1⟩
  · intro s t
    have hs : s.LabelsOnOneLine := by decide
    have ht : t.LabelsOnOneLine := by decide
    have hsFit : s.LabelsFit := by decide
    have htFit : t.LabelsFit := by decide
    refine ⟨⟨hs, ht, hsFit, htFit⟩, ?_⟩
    intro hSame
    have hEq := (Node.drawing_faithful hs ht hSame).2 hsFit htFit
    exact absurd hEq (by decide)

end Outline
