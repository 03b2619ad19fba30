import Mathlib.Logic.Relation
import Outline.Proofs.Tree.Basic
import Outline.Proofs.Yaml.Reading

/-!
# How deep documents go

A reader of records may enter 128 mappings and sequences at once, and following an alias does
not give it more. Each level of a record costs it a mapping, and each level below another one
a sequence in addition. So no record has more than 64 levels, and a node that is among its own
descendants is not read at all.

- `Reads` — a record is read from a node, at some place
- `Reads.height_le` — the number of levels of what is read
- `Document.Child`, `not_reads_of_cycle` — nodes below themselves
-/

namespace Outline.Yaml

/-- A record is read from a node with `depth` mappings and sequences left to enter. -/
def Reads (document : Document) (depth : Nat) (content : Content) (record : Record) : Prop :=
  ∃ path count left, (recordAt document depth path content).run count = .ok (record, left)

/-- The members of a mapping, keys with their values. -/
def pairs : List Content → List (Content × Content)
  | key :: value :: rest => (key, value) :: pairs rest
  | _ => []

section

variable {document : Document} {depth count left : Nat} {path : String}

/-! ## §1 Members and items -/

/-- What all children have that were read from some member, the children of the record have. -/
theorem membersAt_forall_children {P : Record → Prop} {draft : Draft} {record : Record}
    {members : List Content}
    (hRead : ∀ value place start middle children,
      (childrenAt document depth place value).run start = .ok (children, middle) →
        ∀ child ∈ children, P child)
    (hDraft : ∀ child ∈ draft.children.getD [], P child)
    (h : (membersAt document depth path draft members).run count = .ok (record, left)) :
    ∀ child ∈ record.children, P child := by
  induction members using pairs.induct generalizing draft count with
  | case1 key value rest ih =>
    obtain ⟨name, next, middle, -, hRest, hChildren⟩ := membersAt_cons_eq_ok h
    apply ih _ hRest
    rcases hChildren with ⟨-, hSame⟩ | ⟨-, -, children, place, start, hRun, hNext⟩
    · rwa [hSame]
    · rw [hNext]
      exact hRead value place start middle children hRun
  | case2 members hMembers =>
    -- no pairs are left, so this is the end of the record
    cases members with
    | nil =>
      have hFinish := membersAt_nil_eq_ok h
      unfold Draft.finish at hFinish
      split at hFinish
      · cases hFinish
      · cases hFinish
        exact hDraft
    | cons key rest =>
      cases rest with
      | nil => exact absurd h membersAt_singleton_ne_ok
      | cons value rest => exact absurd rfl (hMembers key value rest)

/-- Each member named for the children has been read as children. -/
theorem membersAt_childrenAt {draft : Draft} {record : Record} {members : List Content}
    {key value : Content}
    (h : (membersAt document depth path draft members).run count = .ok (record, left))
    (hPair : (key, value) ∈ pairs members) (hKey : document.Names key "children") :
    ∃ place start middle children,
      (childrenAt document depth place value).run start = .ok (children, middle) := by
  induction members using pairs.induct generalizing draft count with
  | case1 first second rest ih =>
    obtain ⟨name, next, middle, hName, hRest, hChildren⟩ := membersAt_cons_eq_ok h
    rw [pairs] at hPair
    rcases List.mem_cons.mp hPair with hSame | hPair
    · cases hSame
      rcases hChildren with ⟨hOther, -⟩ | ⟨-, -, children, place, start, hRun, -⟩
      · exact absurd (hName.unique hKey) hOther
      · exact ⟨place, start, middle, children, hRun⟩
    · exact ih hRest hPair
  | case2 members hMembers =>
    rw [pairs] at hPair
    · cases hPair
    · exact hMembers

/-- Each child has been read from an item. -/
theorem itemsAt_forall_children {position : Nat} {items : List Content} {children : List Record}
    (h : (itemsAt document depth path position items).run count = .ok (children, left)) :
    ∀ child ∈ children, ∃ item ∈ items, Reads document depth item child := by
  induction items generalizing position count children with
  | nil =>
    rw [itemsAt_nil_eq_ok h]
    simp
  | cons item rest ih =>
    obtain ⟨record, records, middle, rfl, hRecord, hRecords⟩ := itemsAt_cons_eq_ok h
    intro child hChild
    rcases List.mem_cons.mp hChild with rfl | hChild
    · exact ⟨item, List.mem_cons_self .., _, _, _, hRecord⟩
    · obtain ⟨other, hOther, hReads⟩ := ih hRecords child hChild
      exact ⟨other, List.mem_cons_of_mem _ hOther, hReads⟩

/-- Each item has been read as a child. -/
theorem itemsAt_forall_items {position : Nat} {items : List Content} {children : List Record}
    (h : (itemsAt document depth path position items).run count = .ok (children, left)) :
    ∀ item ∈ items, ∃ child, Reads document depth item child := by
  induction items generalizing position count children with
  | nil => simp
  | cons first rest ih =>
    obtain ⟨record, records, middle, rfl, hRecord, hRecords⟩ := itemsAt_cons_eq_ok h
    intro item hItem
    rcases List.mem_cons.mp hItem with rfl | hItem
    · exact ⟨record, _, _, _, hRecord⟩
    · exact ih hRecords item hItem

end

variable {document : Document} {depth : Nat} {content : Content} {record : Record}

/-! ## §2 Levels -/

/-- Every level takes two of the mappings and sequences that may be entered, the last one takes
    one. -/
theorem Reads.height_le (h : Reads document depth content record) :
    2 * record.height ≤ depth + 1 := by
  induction depth using Nat.strongRecOn generalizing content record with
  | ind depth ih =>
    obtain ⟨path, count, left, hRun⟩ := h
    obtain ⟨inside, anchor, tag, members, middle, rfl, -, hMembers⟩ := recordAt_eq_ok hRun
    have hChildren : ∀ child ∈ record.children, 2 * child.height ≤ inside := by
      refine membersAt_forall_children (P := fun child => 2 * child.height ≤ inside) ?_ ?_ hMembers
      · intro value place start last children hRead
        rcases childrenAt_eq_ok hRead with ⟨_, -, -, rfl⟩ |
          ⟨deeper, _, _, items, _, rfl, -, hItems⟩
        · simp
        · intro child hChild
          obtain ⟨item, -, hItem⟩ := itemsAt_forall_children hItems child hChild
          exact ih deeper (by omega) hItem
      · simp
    have hEach : Tree.heightEach record.children ≤ inside / 2 := by
      rw [Tree.heightEach_le_iff]
      intro child hChild
      have hChild := hChildren child hChild
      omega
    obtain ⟨entry, children⟩ := record
    simp only [Tree.height]
    simp only at hEach
    omega

/-! ## §3 Nodes below themselves -/

/-- A node is an item of the sequence of children of another one, also through aliases. -/
inductive Document.Child (document : Document) (parent child : Content) : Prop where
  | item {anchor sequenceAnchor : Option Nat} {tag sequenceTag : Option String}
      {members items : List Content} {key value : Content}
      (mapping : document.resolve? parent = some (.mapping anchor tag members))
      (member : (key, value) ∈ pairs members) (named : document.Names key "children")
      (sequence : document.resolve? value = some (.sequence sequenceAnchor sequenceTag items))
      (mem : child ∈ items)

/-- If a node is read, then so are its children, with less left to enter. -/
theorem Reads.child {child : Content} (h : Reads document depth content record)
    (hChild : document.Child content child) :
    ∃ deeper below, deeper < depth ∧ Reads document deeper child below := by
  obtain ⟨hMapping, hMember, hNamed, hSequence, hMem⟩ := hChild
  obtain ⟨path, count, left, hRun⟩ := h
  obtain ⟨inside, anchor, tag, members, middle, rfl, hResolved, hMembers⟩ := recordAt_eq_ok hRun
  rw [hMapping] at hResolved
  cases hResolved
  obtain ⟨place, start, last, children, hChildren⟩ := membersAt_childrenAt hMembers hMember hNamed
  rcases childrenAt_eq_ok hChildren with ⟨target, hTarget, hAbsent, -⟩ |
    ⟨deeper, _, _, items, _, rfl, hItemsOf, hItems⟩
  · -- a sequence is always there
    rw [hSequence] at hTarget
    cases hTarget
    cases hAbsent
  · rw [hSequence] at hItemsOf
    cases hItemsOf
    obtain ⟨below, hBelow⟩ := itemsAt_forall_items hItems child hMem
    exact ⟨deeper, below, by omega, hBelow⟩

theorem Reads.descendant {other : Content} (h : Reads document depth content record)
    (hOther : Relation.TransGen document.Child content other) :
    ∃ deeper below, deeper < depth ∧ Reads document deeper other below := by
  induction hOther with
  | single hChild => exact h.child hChild
  | tail _ hChild ih =>
    obtain ⟨middle, between, hLess, hBetween⟩ := ih
    obtain ⟨deeper, below, hLessToo, hBelow⟩ := hBetween.child hChild
    exact ⟨deeper, below, Nat.lt_trans hLessToo hLess, hBelow⟩

/-- A node that is among its own descendants is never read. -/
theorem not_reads_of_cycle (hCycle : Relation.TransGen document.Child content content) :
    ¬ Reads document depth content record := by
  -- reading it would mean reading it again with less left to enter
  induction depth using Nat.strongRecOn generalizing record with
  | ind depth ih =>
    intro h
    obtain ⟨deeper, below, hLess, hBelow⟩ := h.descendant hCycle
    exact ih deeper hLess hBelow

end Outline.Yaml

namespace Outline

/-- What is read from a text is read from the root of its document. -/
theorem Record.reads_of_ofYaml {source : String} {record : Record}
    (h : Record.ofYaml source = .ok record) :
    Yaml.Reads (Yaml.Document.ofText source.toList) Yaml.maxDepth
      (Yaml.Document.ofText source.toList).root record := by
  simp only [Record.ofYaml] at h
  split at h
  · cases h
  · rename_i read count hRun
    split at h
    · cases h
      exact ⟨_, _, _, hRun⟩
    · cases h

end Outline
