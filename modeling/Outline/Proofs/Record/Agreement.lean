import Outline.Proofs.Json.RoundTrip
import Outline.Proofs.Tree.Traversal
import Outline.Proofs.Yaml.Printed
import Outline.Proofs.Yaml.Reading

/-!
# Printed descriptions as documents

A printed description is also a document in flow style. Both readers take it for the same
description, provided that it has at most 64 levels and none of its texts has a character that
documents treat in a way of their own.

- `Record.flow` — a record as a value in flow style
- `Record.print_flow` — the text of that value is the printed record
- `Record.recordAt_flow` — the record that its content stands for
- `Node.readers_agree` — both readers agree on printed syntax trees
-/

namespace Outline

open Yaml

/-! ## §1 Records in flow style -/

/-- The value of an entry in flow style. -/
def RecordValue.flow : RecordValue → FlowValue
  | int value => .integer value.toInt
  | text content => .text content

/-- The fields of an entry, apart from the children. -/
def Entry.members (entry : Entry) : List (String × FlowValue) :=
  ("kind", .text entry.kind) :: (entry.name.toList.map (fun name => ("name", .text name)) ++
    entry.value.toList.map (fun value => ("value", value.flow)))

namespace Record

mutual
/-- A record in flow style. -/
def flow : Record → FlowValue
  | ⟨entry, children⟩ => .mapping (entry.members ++ childMember children)

/-- The field for the children, which is left out if there are none. -/
def childMember : List Record → List (String × FlowValue)
  | [] => []
  | child :: rest => [("children", .sequence (flow child :: flowEach rest))]

/-- All records of a list in flow style. -/
def flowEach : List Record → List FlowValue
  | [] => []
  | record :: rest => flow record :: flowEach rest
end

/-! ## §2 Texts -/

theorem printMembers_members (level : Nat) (entry : Entry) :
    FlowValue.printMembers true level entry.members = Json.fields level entry := by
  obtain ⟨kind, name, value⟩ := entry
  have hValue (value : RecordValue) : value.flow.print level = Json.scalar value := by
    cases value <;> simp [RecordValue.flow, FlowValue.print, Json.scalar]
  cases name <;> cases value <;>
    simp [Entry.members, FlowValue.printMembers, FlowValue.print, separator, Json.fields,
      Json.optional, hValue]

mutual
/-- The text of a record in flow style is the printed record. -/
theorem print_flow (level : Nat) : (record : Record) →
    record.flow.print level = Json.record level record
  | ⟨entry, children⟩ => by
    rw [flow, FlowValue.print, Entry.members, FlowValue.printMembers_append, ← Entry.members,
      printMembers_members, print_childMember (level + 1) children, Json.record]
    simp

theorem print_childMember (level : Nat) : (children : List Record) →
    FlowValue.printMembers false level (childMember children) = Json.childField level children
  | [] => rfl
  | child :: rest => by
    simp [childMember, FlowValue.printMembers, FlowValue.print, FlowValue.printItems, separator,
      print_flow (level + 1) child, print_flowEach (level + 1) rest, Json.childField]

theorem print_flowEach (level : Nat) : (records : List Record) →
    FlowValue.printItems false level (flowEach records) = Json.moreChildren level records
  | [] => rfl
  | record :: rest => by
    simp [flowEach, FlowValue.printItems, separator, print_flow level record,
      print_flowEach level rest, Json.moreChildren]
end

end Record

/-! ## §3 Contents -/

namespace Yaml

variable {document : Document} {depth count : Nat} {path : String} {draft : Draft}
  {rest : List Content}

/-- A quoted key as a node. -/
abbrev keyNode (name : String) : Content := .scalar none none name false

-- each field of a printed entry adds to the draft just what it stands for, and no alias is counted

theorem membersAt_kind (hNew : draft.kind = none) (kind : String) :
    (membersAt document depth path draft
        (keyNode "kind" :: (FlowValue.text kind).content :: rest)).run count =
      (membersAt document depth path { draft with kind := some kind } rest).run count := by
  rw [membersAt, FlowValue.content]
  simp [stringAt, follow, hNew]

theorem membersAt_name (hNew : draft.name = none) (name : String) :
    (membersAt document depth path draft
        (keyNode "name" :: (FlowValue.text name).content :: rest)).run count =
      (membersAt document depth path { draft with name := some (some name) } rest).run count := by
  rw [membersAt, FlowValue.content]
  simp [stringAt, optionalString, isPresent, follow, hNew]

/-- The value of an entry in flow style stands for itself. -/
theorem optionalValue_flow (value : RecordValue) :
    (optionalValue document depth path value.flow.content).run count = .ok (some value, count) := by
  cases value with
  | text content =>
    rw [RecordValue.flow, FlowValue.content, optionalValue]
    simp [isPresent, follow, anyValue, isOwnTag, resolve, recordValue?]
  | int number =>
    have hEmpty := isEmpty_toString_int number.toInt
    have hNull := isNullWord_toString_int number.toInt
    have hPlain := resolvePlain_integer number
    have hValue := Number.int64OfInt?_eq_some_iff.mpr (rfl : number.toInt = number.toInt)
    rw [RecordValue.flow, FlowValue.content, optionalValue]
    -- from here on the text counts only for what it is resolved to
    generalize toString number.toInt = written at hEmpty hNull hPlain
    simp [isPresent, follow, anyValue, isOwnTag, resolve, recordValue?, hEmpty, hNull, hPlain,
      hValue]

theorem membersAt_value (hNew : draft.value = none) (value : RecordValue) :
    (membersAt document depth path draft
        (keyNode "value" :: value.flow.content :: rest)).run count =
      (membersAt document depth path { draft with value := some (some value) } rest).run count := by
  rw [membersAt]
  simp [stringAt, follow, hNew, optionalValue_flow]

/-- The fields of an entry make a draft of it. -/
theorem membersAt_members (entry : Entry) :
    (membersAt document depth path {}
        (FlowValue.memberContents entry.members ++ rest)).run count =
      (membersAt document depth path
        ⟨some entry.kind, entry.name.map some, entry.value.map some, none⟩ rest).run count := by
  obtain ⟨kind, name, value⟩ := entry
  cases name <;> cases value <;>
    simp [Entry.members, FlowValue.memberContents, membersAt_kind, membersAt_name, membersAt_value]

/-- The field for the children ends a record, if the children can be read. -/
theorem membersAt_childMember (entry : Entry) {children : List Record}
    (hItems : ∀ inside place, 2 * Tree.heightEach children ≤ inside + 1 →
      (itemsAt document inside place 0
        (FlowValue.itemContents (Record.flowEach children))).run count = .ok (children, count))
    (hRoom : 2 * Tree.heightEach children ≤ depth) :
    (membersAt document depth path
        ⟨some entry.kind, entry.name.map some, entry.value.map some, none⟩
        (FlowValue.memberContents (Record.childMember children))).run count =
      .ok (⟨entry, children⟩, count) := by
  have hName : (entry.name.map some).getD none = entry.name := by cases entry.name <;> rfl
  have hValue : (entry.value.map some).getD none = entry.value := by cases entry.value <;> rfl
  cases children with
  | nil =>
    rw [Record.childMember, FlowValue.memberContents, membersAt]
    simp [Draft.finish, hName, hValue]
  | cons child more =>
    have hPositive := child.height_pos
    rw [Tree.heightEach] at hRoom
    obtain ⟨inside, rfl⟩ : ∃ inside, depth = inside + 1 := ⟨depth - 1, by omega⟩
    have hRead := hItems inside (memberPath path (keyNode "children"))
      (by rw [Tree.heightEach]; omega)
    have hChildren : (childrenAt document (inside + 1) (memberPath path (keyNode "children"))
        (FlowValue.sequence (Record.flowEach (child :: more))).content).run count =
          .ok (child :: more, count) := by
      rw [FlowValue.content, childrenAt]
      simpa [follow] using hRead
    rw [Record.childMember, FlowValue.memberContents, membersAt, ← Record.flowEach]
    simp [stringAt, follow, hChildren, FlowValue.memberContents, membersAt, Draft.finish, hName,
      hValue]

end Yaml

namespace Record

variable {document : Document} {count : Nat}

mutual
/-- The content of a record is read as the record, if its levels can be entered. -/
theorem recordAt_flow {depth : Nat} {path : String} : (record : Record) →
    2 * record.height ≤ depth + 1 →
    (recordAt document depth path record.flow.content).run count = .ok (record, count)
  | ⟨entry, children⟩, hHeight => by
    rw [Tree.height] at hHeight
    obtain ⟨inside, rfl⟩ : ∃ inside, depth = inside + 1 := ⟨depth - 1, by omega⟩
    -- the mapping takes one unit of depth, and the sequence of the children another one
    have hRoom : 2 * Tree.heightEach children ≤ inside := by omega
    have hMembers : (membersAt document inside path {}
        (FlowValue.memberContents (entry.members ++ childMember children))).run count =
          .ok (⟨entry, children⟩, count) := by
      rw [FlowValue.memberContents_append, membersAt_members]
      exact membersAt_childMember entry (fun _ _ => itemsAt_flowEach children) hRoom
    rw [flow, FlowValue.content, recordAt]
    simpa [follow] using hMembers

/-- The contents of records are read as the records. -/
theorem itemsAt_flowEach {depth : Nat} {path : String} {position : Nat} :
    (records : List Record) → 2 * Tree.heightEach records ≤ depth + 1 →
    (itemsAt document depth path position (FlowValue.itemContents (flowEach records))).run count =
      .ok (records, count)
  | [], _ => by
    rw [flowEach, FlowValue.itemContents, itemsAt]
    rfl
  | record :: rest, hHeight => by
    rw [Tree.heightEach] at hHeight
    have hRecord : 2 * record.height ≤ depth + 1 := by omega
    have hRest : 2 * Tree.heightEach rest ≤ depth + 1 := by omega
    rw [flowEach, FlowValue.itemContents, itemsAt]
    simp [recordAt_flow record hRecord, itemsAt_flowEach rest hRest]
end

/-! ## §4 Descriptions -/

/-- A printed record is a document from which the record is read. -/
theorem ofYaml_toJson {record : Record} (hHeight : record.height ≤ 64)
    (hWritable : record.flow.Writable) : Record.ofYaml record.toJson = .ok record := by
  obtain ⟨members, hFlow⟩ : ∃ members, record.flow = .mapping members := by
    obtain ⟨entry, children⟩ := record
    exact ⟨_, by rw [flow]⟩
  have hText : record.toJson.toList = (FlowValue.mapping members).print 0 := by
    rw [← hFlow, print_flow, Record.toJson, String.toList_ofList]
  rw [hFlow] at hWritable
  obtain ⟨hRoot, hAlone⟩ := FlowValue.ofText_of_tokens (FlowValue.tokens_print hWritable 0)
  rw [← hFlow] at hText hRoot hAlone
  have hDepth : 2 * record.height ≤ maxDepth + 1 := by
    have hMost : maxDepth = 128 := rfl
    omega
  simp only [Record.ofYaml, hText, hRoot, recordAt_flow record hDepth, hAlone, if_true]

end Record

/-- The name that a kind carries or is known by. -/
def Kind.carriedName? : Kind → Option String
  | .identifier name | .other name => some name
  | _ => none

/-- The fields of an entry that describes a kind can be written, if the name it carries can. -/
theorem writableMembers_ofKind {kind : Kind} (h : ∀ name ∈ kind.carriedName?, Quotable name) :
    FlowValue.WritableMembers (Entry.ofKind kind).members := by
  have hKeys : ∀ key ∈ ["kind", "name", "value"],
      Quotable key ∧ (Json.string key).length ≤ 1024 := by decide
  have hKinds : ∀ text ∈ ["start", "add", "multiply", "identifier", "integer", "other"],
      Quotable text := by decide
  cases kind <;>
    simp_all [Entry.ofKind, Entry.members, FlowValue.WritableMembers, FlowValue.Writable,
      RecordValue.flow, Kind.carriedName?]

/-- A printed syntax tree can be written, if the names in it can. -/
theorem Node.writable_flow {node : Node}
    (h : ∀ subtree ∈ node.preorder, ∀ name ∈ subtree.item.carriedName?, Quotable name) :
    (Record.ofNode node).flow.Writable := by
  induction node using Tree.induction with
  | node kind children ih =>
    rw [Tree.preorder_eq, List.forall_mem_cons] at h
    obtain ⟨hKind, hChildren⟩ := h
    have each : ∀ nodes : List Node, (∀ node ∈ nodes, node ∈ children) →
        FlowValue.WritableItems (Record.flowEach (Tree.mapEach Entry.ofKind nodes)) := by
      intro nodes
      induction nodes with
      | nil => exact fun _ => trivial
      | cons first rest ihRest =>
        intro hNodes
        rw [List.forall_mem_cons] at hNodes
        refine ⟨ih first hNodes.1 fun subtree hSubtree => ?_, ihRest hNodes.2⟩
        exact hChildren subtree (List.mem_flatMap.mpr ⟨first, hNodes.1, hSubtree⟩)
    have hKey : Quotable "children" ∧ (Json.string "children").length ≤ 1024 := by decide
    have hItems := each children fun _ hNode => hNode
    rw [Record.ofNode, Tree.map, Record.flow, FlowValue.Writable]
    apply FlowValue.writableMembers_append (writableMembers_ofKind hKind)
    cases children with
    | nil => trivial
    | cons first rest => exact ⟨hKey, hItems, trivial⟩

/-- **Both readers agree on printed syntax trees.** If a syntax tree has at most 64 levels, and
    no name in it has a character that documents refuse or treat in a way of their own, then its
    description is read back as the tree, without any notice, whether it is taken for JSON or
    for YAML. -/
theorem Node.readers_agree (node : Node) (hHeight : node.height ≤ 64)
    (hNames : ∀ subtree ∈ node.preorder, ∀ name ∈ subtree.item.carriedName?, Quotable name) :
    Node.ofYaml (Node.toJson node) = Node.ofJson (Node.toJson node) ∧
      Node.ofJson (Node.toJson node) = .quiet (.ok node) := by
  have hJson := Node.ofJson_toJson_append node Json.Blanks.nil
  rw [String.ofList_nil, String.append_empty, if_pos hHeight] at hJson
  have hHeightRecord : (Record.ofNode node).height ≤ 64 := by
    rw [Record.ofNode, Tree.height_map]
    exact hHeight
  have hYaml : Node.ofYaml (Node.toJson node) = .quiet (.ok node) := by
    rw [Node.ofYaml, Node.toJson, Record.ofYaml_toJson hHeightRecord (Node.writable_flow hNames),
      Record.load, Record.toNode_ofNode]
    rfl
  exact ⟨hYaml.trans hJson.symm, hJson⟩

/-- In a tree of 64 levels names keep their text, whatever they look like as plain scalars of a
    document, and so do an empty name, blanks, line breaks and quotes. -/
theorem Node.readers_agree_words :
    let names := ["true", "null", "~", "5", "- x", " a ", "# c", "\t", "a\n\nb", "\"\\", ""]
    let words : Node := ⟨.start, ⟨.integer (-9223372036854775808), []⟩ ::
      names.map fun name => ⟨.identifier name, [⟨.other name, []⟩]⟩⟩
    let node : Node := (List.replicate 61 Kind.add).foldr (fun kind below => ⟨kind, [below]⟩) words
    node.height = 64 ∧
      (∀ subtree ∈ node.preorder, ∀ name ∈ subtree.item.carriedName?, Quotable name) ∧
      Node.ofYaml (Node.toJson node) = Node.ofJson (Node.toJson node) ∧
      Node.ofJson (Node.toJson node) = .quiet (.ok node) := by
  intro names words node
  have hHeight : node.height = 64 := by decide +kernel
  have hNames : ∀ subtree ∈ node.preorder, ∀ name ∈ subtree.item.carriedName?, Quotable name := by
    decide +kernel
  exact ⟨hHeight, hNames, Node.readers_agree node (Nat.le_of_eq hHeight) hNames⟩

end Outline
