import Mathlib.Data.Set.List
import Outline.Proofs.Json.RoundTrip
import Outline.Proofs.Tree.Traversal

/-!
# Records that describe themselves

Describing a tree and reading the description gives the tree back. The other way round, reading
a record and describing the tree does not always give the record back: kinds may be written in
capitals, numbers as texts, and parts of an entry may have no use. It does for the records that
are descriptions of trees, and these can be told entry by entry.

- `Tree.mem_range_map_iff` — the trees that relabelling gives, told item by item
- `Entry.isCanonical` — the entries that describe kinds in the way kinds are described
- `Record.codec_law` — records that are read and described again
-/

namespace Outline

/-! ## §1 Relabelled trees -/

namespace Tree

variable {α β : Type}

theorem mk_mem_range_map_iff {f : α → β} {item : β} {children : List (Tree β)} :
    ⟨item, children⟩ ∈ Set.range (Tree.map f) ↔
      item ∈ Set.range f ∧ ∀ child ∈ children, child ∈ Set.range (Tree.map f) := by
  -- the children are relabelled as a list
  have hChildren : (∀ child ∈ children, child ∈ Set.range (Tree.map f)) ↔
      children ∈ Set.range (List.map (Tree.map f)) := by
    rw [Set.range_list_map]
    rfl
  rw [hChildren]
  constructor
  · rintro ⟨⟨source, sources⟩, h⟩
    rw [Tree.map, mapEach_eq_map] at h
    cases h
    exact ⟨⟨source, rfl⟩, ⟨sources, rfl⟩⟩
  · rintro ⟨⟨source, rfl⟩, ⟨sources, rfl⟩⟩
    refine ⟨⟨source, sources⟩, ?_⟩
    rw [Tree.map, mapEach_eq_map]

/-- Relabelling gives a tree exactly if it gives each item of the tree. -/
theorem mem_range_map_iff {f : α → β} {tree : Tree β} :
    tree ∈ Set.range (Tree.map f) ↔ ∀ part ∈ tree.preorder, part.item ∈ Set.range f := by
  induction tree using Tree.induction with
  | node item children ih =>
    rw [mk_mem_range_map_iff, preorder_eq, List.forall_mem_cons]
    apply and_congr_right
    intro _
    constructor
    · intro h part hPart
      obtain ⟨child, hChild, hBelow⟩ := List.mem_flatMap.mp hPart
      exact (ih child hChild).mp (h child hChild) part hBelow
    · intro h child hChild
      apply (ih child hChild).mpr
      intro part hPart
      exact h part (List.mem_flatMap.mpr ⟨child, hChild, hPart⟩)

end Tree

/-! ## §2 Entries -/

namespace Entry

/-- Whether an entry is written as the description of a kind: the kind is one of six words in
    small letters, and the entry has just the parts that the kind calls for. -/
def isCanonical : Entry → Bool
  | ⟨"start", none, none⟩ | ⟨"add", none, none⟩ | ⟨"multiply", none, none⟩ => true
  | ⟨"identifier", none, some (.text _)⟩ => true
  | ⟨"integer", none, some (.int _)⟩ => true
  | ⟨"other", some _, none⟩ => true
  | _ => false

theorem isCanonical_iff {entry : Entry} :
    entry.isCanonical = true ↔ entry ∈ Set.range Entry.ofKind := by
  constructor
  · fun_cases isCanonical entry with
    | case1 => exact fun _ => ⟨.start, rfl⟩
    | case2 => exact fun _ => ⟨.add, rfl⟩
    | case3 => exact fun _ => ⟨.multiply, rfl⟩
    | case4 name => exact fun _ => ⟨.identifier name, rfl⟩
    | case5 value => exact fun _ => ⟨.integer value, rfl⟩
    | case6 name => exact fun _ => ⟨.other name, rfl⟩
    | case7 => simp
  · rintro ⟨kind, rfl⟩
    cases kind <;> rfl

/-- A kind in capitals is read, but it is not written so. -/
example : Entry.toKind { kind := "ADD" } = .ok .add ∧
    Entry.isCanonical { kind := "ADD" } = false := by
  decide +kernel

end Entry

/-! ## §3 Records -/

/-- **Records and syntax trees.** The description of a syntax tree is read as that tree. A record
    is read as a tree that it is the description of exactly if each of its entries is canonical. -/
theorem Record.codec_law :
    (∀ node : Node, (Record.ofNode node).toNode.value = .ok node) ∧
    ∀ record : Record,
      (∃ node, record.toNode.value = .ok node ∧ Record.ofNode node = record) ↔
        ∀ part ∈ record.preorder, part.item.isCanonical = true := by
  have hRead (node : Node) : (Record.ofNode node).toNode.value = .ok node := by
    rw [Record.toNode_ofNode, Logged.quiet]
  refine ⟨hRead, ?_⟩
  intro record
  have hRange : (∃ node, record.toNode.value = .ok node ∧ Record.ofNode node = record) ↔
      record ∈ Set.range (Tree.map Entry.ofKind) := by
    constructor
    · rintro ⟨node, -, h⟩
      exact ⟨node, h⟩
    · rintro ⟨node, rfl⟩
      exact ⟨node, hRead node, rfl⟩
  simp only [hRange, Tree.mem_range_map_iff, Entry.isCanonical_iff]

end Outline
