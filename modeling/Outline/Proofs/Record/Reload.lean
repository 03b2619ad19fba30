import Mathlib
import Outline.Proofs.Json.RoundTrip
import Outline.Proofs.Yaml.Depth

/-!
# Loading, printing and loading again

Whatever is loaded can be printed as JSON and loaded again. Both readers of descriptions stop
at 64 levels, which is just as much as a printed description may have.

- `Record.exists_of_toNode`, `Record.map_toKind_of_toNode` — the tree of a record
- `Node.height_le_of_ofJson`, `Node.height_le_of_ofYaml` — levels of what is loaded
- `Node.reload_of_load` — what is loaded, printed and loaded again
-/

namespace Outline

/-! ## §1 Records and their trees -/

/-- A record describes a tree if its entry describes a kind and its children describe trees. -/
theorem Record.exists_of_toNode {entry : Entry} {children : List Record} {node : Node}
    (h : (Record.toNode ⟨entry, children⟩).value = .ok node) :
    ∃ kind nodes, entry.toKind = .ok kind ∧ (Record.toNodeEach children).value = .ok nodes ∧
      node = ⟨kind, nodes⟩ := by
  rw [Record.toNode] at h
  cases hKind : entry.toKind with
  | error error => simp [hKind] at h
  | ok kind =>
    cases hBelow : (Record.toNodeEach children).value with
    | error error => simp [hKind, hBelow, Except.map] at h
    | ok nodes =>
      simp only [hKind, hBelow, Except.map, Except.ok.injEq] at h
      exact ⟨kind, nodes, rfl, rfl, h.symm⟩

theorem Record.exists_of_toNodeEach_cons {first : Record} {rest : List Record} {nodes : List Node}
    (h : (Record.toNodeEach (first :: rest)).value = .ok nodes) :
    ∃ node others, first.toNode.value = .ok node ∧ (Record.toNodeEach rest).value = .ok others ∧
      nodes = node :: others := by
  rw [Record.toNodeEach] at h
  cases hFirst : first.toNode.value with
  | error error => simp [hFirst] at h
  | ok node =>
    cases hRest : (Record.toNodeEach rest).value with
    | error error => simp [hFirst, hRest, Except.map] at h
    | ok others =>
      simp only [hFirst, hRest, Except.map, Except.ok.injEq] at h
      exact ⟨node, others, rfl, rfl, h.symm⟩

/-- The tree of a record has the shape of the record, and each kind is that of its entry. -/
theorem Record.map_toKind_of_toNode {record : Record} {node : Node}
    (h : record.toNode.value = .ok node) : record.map Entry.toKind = node.map .ok := by
  induction record using Tree.induction generalizing node with
  | node entry children ih =>
    -- the same for some of the children, from left to right
    have each : ∀ (records : List Record) (nodes : List Node),
        (∀ record ∈ records, record ∈ children) →
        (Record.toNodeEach records).value = .ok nodes →
        Tree.mapEach Entry.toKind records = Tree.mapEach .ok nodes := by
      intro records
      induction records with
      | nil =>
        intro nodes _ hNodes
        cases hNodes
        rfl
      | cons first rest ihRest =>
        intro nodes hMem hNodes
        obtain ⟨node, others, hFirst, hRest, rfl⟩ := Record.exists_of_toNodeEach_cons hNodes
        rw [List.forall_mem_cons] at hMem
        rw [Tree.mapEach, Tree.mapEach, ih first hMem.1 hFirst, ihRest others hMem.2 hRest]
    obtain ⟨kind, nodes, hKind, hBelow, rfl⟩ := Record.exists_of_toNode h
    rw [Tree.map, Tree.map, hKind, each children nodes (fun _ hRecord => hRecord) hBelow]

theorem Record.height_of_toNode {record : Record} {node : Node}
    (h : record.toNode.value = .ok node) : node.height = record.height := by
  have hMap := congrArg Tree.height (Record.map_toKind_of_toNode h)
  rw [Tree.height_map, Tree.height_map] at hMap
  exact hMap.symm

/-! ## §2 Levels of what is loaded -/

/-- A tree that is loaded comes from a record that was read. -/
theorem Record.exists_of_load {ε : Type} {wrap : ε → LoadError} {read : Except ε Record}
    {node : Node} (h : (Record.load wrap read).value = .ok node) :
    ∃ record, read = .ok record ∧ record.toNode.value = .ok node := by
  cases read with
  | error problem => cases h
  | ok record =>
    refine ⟨record, rfl, ?_⟩
    simp only [Record.load, Logged.map] at h
    cases hNode : record.toNode.value with
    | error error =>
      rw [hNode] at h
      cases h
    | ok found =>
      rw [hNode] at h
      cases h
      rfl

theorem Node.height_le_of_ofJson {source : String} {node : Node}
    (h : (Node.ofJson source).value = .ok node) : node.height ≤ 64 := by
  obtain ⟨record, hRead, hNode⟩ := Record.exists_of_load h
  rw [Record.height_of_toNode hNode]
  exact (Record.ofJson_eq_ok hRead).height_le

theorem Node.height_le_of_ofYaml {source : String} {node : Node}
    (h : (Node.ofYaml source).value = .ok node) : node.height ≤ 64 := by
  obtain ⟨record, hRead, hNode⟩ := Record.exists_of_load h
  have hHeight := (Record.reads_of_ofYaml hRead).height_le
  have hDepth : Yaml.maxDepth = 128 := rfl
  rw [Record.height_of_toNode hNode]
  omega

/-- A document with a node below itself, where the reader comes to it, is not loaded. -/
theorem Node.ofYaml_ne_ok_of_cycle {source : String} {content : Yaml.Content}
    (hReach : Relation.ReflTransGen (Yaml.Document.ofText source.toList).Child
      (Yaml.Document.ofText source.toList).root content)
    (hCycle : Relation.TransGen (Yaml.Document.ofText source.toList).Child content content)
    (node : Node) : (Node.ofYaml source).value ≠ .ok node := by
  intro h
  obtain ⟨record, hRead, -⟩ := Record.exists_of_load h
  have hRoot := Record.reads_of_ofYaml hRead
  rcases Relation.reflTransGen_iff_eq_or_transGen.mp hReach with rfl | hBelow
  · exact Yaml.not_reads_of_cycle hCycle hRoot
  · obtain ⟨_, _, -, hContent⟩ := hRoot.descendant hBelow
    exact Yaml.not_reads_of_cycle hCycle hContent

/-! ## §3 Loading again -/

/-- A tree of at most 64 levels is printed with a line break, and loaded from that. -/
theorem Node.ofJson_serialize {node : Node} (h : node.height ≤ 64) :
    ∃ text, (Formatter.json.serialize node).value = .ok text ∧
      (Node.ofJson text).value = .ok node := by
  refine ⟨Node.toJson node ++ "\n", rfl, ?_⟩
  have hRead := Node.ofJson_toJson_append node (Json.blanks_newLine 0)
  rw [if_pos h] at hRead
  exact congrArg Logged.value hRead

/-- **What is loaded can be printed and loaded again.** A tree loaded from a JSON or YAML
    description has at most 64 levels. So it is printed as JSON, loaded again from what was
    printed, and printed as the same text once more. A YAML document in which the reader comes
    to a node that is among its own descendants is never loaded. -/
theorem Node.reload_of_load (source : String) :
    (∀ tree : Node, (Node.ofJson source).value = .ok tree ∨ (Node.ofYaml source).value = .ok tree →
      tree.height ≤ 64 ∧
      ∃ text, (Formatter.json.serialize tree).value = .ok text ∧
        (Node.ofJson text).value = .ok tree ∧
        ∀ again, (Node.ofJson text).value = .ok again →
          (Formatter.json.serialize again).value = .ok text) ∧
    (∀ content, Relation.ReflTransGen (Yaml.Document.ofText source.toList).Child
        (Yaml.Document.ofText source.toList).root content →
      Relation.TransGen (Yaml.Document.ofText source.toList).Child content content →
      ∀ tree, (Node.ofYaml source).value ≠ .ok tree) := by
  constructor
  · intro tree hLoad
    have hHeight : tree.height ≤ 64 := by
      rcases hLoad with hJson | hYaml
      · exact Node.height_le_of_ofJson hJson
      · exact Node.height_le_of_ofYaml hYaml
    obtain ⟨text, hText, hAgain⟩ := Node.ofJson_serialize hHeight
    refine ⟨hHeight, text, hText, hAgain, ?_⟩
    intro again hLoaded
    rw [hAgain] at hLoaded
    cases hLoaded
    exact hText
  · intro content hReach hCycle
    exact Node.ofYaml_ne_ok_of_cycle hReach hCycle

/-- A node with a reference to itself among its children. -/
private def ownChild : Yaml.Content :=
  .mapping (some 0) none [.scalar none none "kind" true, .scalar none none "add" true,
    .scalar none none "children" true, .sequence none none [.alias 0]]

set_option maxRecDepth 10000 in
private theorem ofText_ownChild :
    Yaml.Document.ofText "&a\nkind: add\nchildren:\n- *a\n".toList =
      ⟨ownChild, [(0, ownChild)], 8, true⟩ := by
  unfold ownChild
  cbv

set_option maxRecDepth 10000 in
/-- A node that is used twice through an alias is loaded twice and can be printed. A node that
    is its own child through an alias is never loaded. -/
theorem Node.reload_of_load_through_alias :
    let shared := "kind: add\nchildren:\n- &a\n  kind: x\n- *a\n"
    let tree : Node := ⟨.add, [⟨.other "x", []⟩, ⟨.other "x", []⟩]⟩
    let own := "&a\nkind: add\nchildren:\n- *a\n"
    let document := Yaml.Document.ofText own.toList
    (Node.ofYaml shared).value = .ok tree ∧
      (∃ text, (Formatter.json.serialize tree).value = .ok text ∧
        (Node.ofJson text).value = .ok tree) ∧
      Relation.ReflTransGen document.Child document.root (.alias 0) ∧
      Relation.TransGen document.Child (.alias 0) (.alias 0) ∧
      ∀ tree, (Node.ofYaml own).value ≠ .ok tree := by
  intro shared tree own document
  have hLoad : (Node.ofYaml shared).value = .ok tree := by cbv
  obtain ⟨-, text, hText, hAgain, -⟩ := (Node.reload_of_load shared).1 tree (.inr hLoad)
  have hDocument : document = ⟨ownChild, [(0, ownChild)], 8, true⟩ := ofText_ownChild
  -- the root, also where the alias stands for it, has the alias as its only child
  have hChild (parent : Yaml.Content) (h : document.resolve? parent = some ownChild) :
      document.Child parent (.alias 0) :=
    .item h (.tail _ (.head _)) ⟨none, none, true, rfl⟩ rfl (.head _)
  have hReach : Relation.ReflTransGen document.Child document.root (.alias 0) := by
    apply Relation.ReflTransGen.single
    apply hChild
    rw [hDocument]
    rfl
  have hCycle : Relation.TransGen document.Child (.alias 0) (.alias 0) := by
    apply Relation.TransGen.single
    apply hChild
    rw [hDocument]
    rfl
  exact ⟨hLoad, ⟨text, hText, hAgain⟩, hReach, hCycle,
    (Node.reload_of_load own).2 (.alias 0) hReach hCycle⟩

end Outline
