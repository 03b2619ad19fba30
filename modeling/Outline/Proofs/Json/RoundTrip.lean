import Outline.Format.Registry
import Outline.Proofs.Json.Description
import Outline.Proofs.Json.Printed
import Outline.Record.Description

/-!
# Printing and reading

A description that has been printed is read back as what it describes, provided that it has
at most 64 levels. Deeper descriptions are not read at all: each level but the last one opens
an object and an array, and no more than 127 of them may be open at once.

- `Record.ofJson_toJson_append` — a printed record that is read back
- `Node.ofJson_toJson` — a printed syntax tree that is read back
- `Json.record_append_inj` — a printed record that something else follows
- `Node.toJson_inj` — syntax trees that are printed alike
-/

namespace Outline

/-! ## §1 Records -/

/-- A printed record is read back, whatever blanks follow it, exactly if it has at most 64
    levels; otherwise the text is malformed. -/
theorem Record.ofJson_toJson_append (record : Record) {blanks : List Char}
    (hBlanks : Json.Blanks blanks) :
    Record.ofJson (record.toJson ++ String.ofList blanks) =
      if record.height ≤ 64 then .ok record else .error .malformed := by
  have hPositive := record.height_pos
  have hText := Json.recordText_record record 0 (2 * record.height - 1) (by omega)
  have hSource : (record.toJson ++ String.ofList blanks).toList =
      [] ++ (Json.record 0 record ++ blanks) := by
    simp [Record.toJson]
  have hRoom : Json.maxOpen = 127 := rfl
  -- the record is read or lacks room; what is read has at most 64 levels, and what lacks room
  -- has more
  rcases Record.ofJson_within .nil hText hBlanks hSource with hOk | ⟨hLess, hError⟩
  · rw [if_pos (Record.ofJson_eq_ok hOk).height_le, hOk]
  · rw [if_neg (by omega), hError]

/-! ## §2 Syntax trees -/

/-- A text of small letters is its own lower case. -/
theorem toLower_eq_self {text : String} (h : text.toList.map Char.toLower = text.toList) :
    text.toLower = text := by
  show text.map Char.toLower = text
  rw [← String.toList_inj, String.toList_map, h]

/-- The kinds of entries are written in small letters. -/
theorem Entry.toLower_ofKind (kind : Kind) :
    (Entry.ofKind kind).kind.toLower = (Entry.ofKind kind).kind := by
  have hSmall : ∀ word ∈ ["start", "add", "multiply", "identifier", "integer", "other"],
      word.toList.map Char.toLower = word.toList := by decide
  cases kind <;> exact toLower_eq_self (hSmall _ (by simp [Entry.ofKind]))

theorem Entry.toKind_ofKind (kind : Kind) : (Entry.ofKind kind).toKind = .ok kind := by
  rw [Entry.toKind, Entry.toLower_ofKind]
  cases kind <;> rfl

theorem Entry.notices_ofKind (kind : Kind) : (Entry.ofKind kind).notices = [] := by
  rw [Entry.notices, Entry.toLower_ofKind]
  cases kind <;> rfl

/-- The description of a syntax tree describes that tree, and all parts of it have a use. -/
theorem Record.toNode_ofNode (node : Node) : (Record.ofNode node).toNode = .quiet (.ok node) := by
  induction node using Tree.induction with
  | node kind children ih =>
    -- the children from left to right, none of which fails
    have each : ∀ nodes : List Node, (∀ node ∈ nodes, node ∈ children) →
        Record.toNodeEach (Tree.mapEach Entry.ofKind nodes) = .quiet (.ok nodes) := by
      intro nodes
      induction nodes with
      | nil => intro _; rfl
      | cons first rest ihRest =>
        intro h
        have hFirst := ih first (h first (List.mem_cons_self ..))
        have hRest := ihRest fun node hNode => h node (List.mem_cons_of_mem _ hNode)
        rw [Record.ofNode] at hFirst
        simp only [Tree.mapEach, Record.toNodeEach, hFirst, hRest, Logged.quiet]
        rfl
    simp only [Record.ofNode, Tree.map, Record.toNode, Entry.toKind_ofKind, Entry.notices_ofKind,
      each children fun _ h => h, Logged.quiet]
    rfl

/-- A printed syntax tree is read back, whatever blanks follow it, exactly if it has at
    most 64 levels. -/
theorem Node.ofJson_toJson_append (node : Node) {blanks : List Char}
    (hBlanks : Json.Blanks blanks) :
    Node.ofJson (Node.toJson node ++ String.ofList blanks) =
      .quiet (if node.height ≤ 64 then .ok node else .error (.json .malformed)) := by
  have hHeight : (Record.ofNode node).height = node.height := Tree.height_map Entry.ofKind node
  rw [Node.ofJson, Node.toJson, Record.ofJson_toJson_append _ hBlanks, hHeight]
  split
  · rw [Record.load, Record.toNode_ofNode]
    rfl
  · rfl

/-- **Round trip of syntax trees.** Every syntax tree is printed. A tree of at most 64 levels
    is read back from what is printed, without any notice. For a deeper one the text counts as
    malformed, so that it is never taken for another tree. The same holds for the text of the
    formatter, which ends with a line break. -/
theorem Node.ofJson_toJson (node : Node) :
    Node.ofJson (Node.toJson node) =
      .quiet (if node.height ≤ 64 then .ok node else .error (.json .malformed)) ∧
    ∃ text, Formatter.json.serialize node = .quiet (.ok text) ∧ text = Node.toJson node ++ "\n" ∧
      Node.ofJson text =
        .quiet (if node.height ≤ 64 then .ok node else .error (.json .malformed)) := by
  have hLine : Json.Blanks ['\n'] := by
    intro c hc
    rw [List.mem_singleton.mp hc]
    decide
  constructor
  · have hPlain := Node.ofJson_toJson_append node Json.Blanks.nil
    rwa [String.ofList_nil, String.append_empty] at hPlain
  · exact ⟨_, rfl, rfl, Node.ofJson_toJson_append node hLine⟩

/-! ## §3 Texts that are told apart -/

/-- With enough room the reader ends where a printed record ends, whatever follows it. -/
theorem Json.recordAt_record_append (tree : Record) (level room : Nat) (rest : List Char)
    (hRoom : 2 * tree.height ≤ room + 1) :
    Json.recordAt (Json.enough (Json.record level tree ++ rest)) room
      (Json.record level tree ++ rest) = .ok (tree, rest) := by
  have hText := Json.recordText_record tree level room hRoom
  exact (Json.recordAt_of_begins room ⟨[], _, .nil, hText, rfl⟩).eq_ok (Nat.le_refl room)

/-- No printed record goes on as another one. -/
theorem Json.record_append_inj {s t : Record} {level level' : Nat} {rest rest' : List Char}
    (h : Json.record level s ++ rest = Json.record level' t ++ rest') : s = t ∧ rest = rest' := by
  -- there is no bound on the levels, so the room is chosen for the two records at hand
  have hFirst := Json.recordAt_record_append s level (2 * s.height + 2 * t.height) rest (by omega)
  have hSecond := Json.recordAt_record_append t level' (2 * s.height + 2 * t.height) rest'
    (by omega)
  rw [h, hSecond] at hFirst
  cases hFirst
  exact ⟨rfl, rfl⟩

theorem Record.toJson_injective : Function.Injective Record.toJson := by
  intro s t h
  have hText : Json.record 0 s = Json.record 0 t := String.ofList_injective h
  have hSame : Json.record 0 s ++ [] = Json.record 0 t ++ [] := by rw [hText]
  exact (Json.record_append_inj hSame).1

theorem Record.ofNode_injective : Function.Injective Record.ofNode := by
  intro s t h
  have hRead := Record.toNode_ofNode s
  rw [h, Record.toNode_ofNode t] at hRead
  cases hRead
  rfl

/-- **Printed descriptions tell all syntax trees apart.** Two syntax trees are printed as the same
    text only if they are the same, however many levels they have; this is so as well for trees
    that are too deep to be read back. -/
theorem Node.toJson_inj (s t : Node) : Node.toJson s = Node.toJson t ↔ s = t := by
  constructor
  · intro h
    exact Record.ofNode_injective (Record.toJson_injective h)
  · rintro rfl
    rfl

end Outline
