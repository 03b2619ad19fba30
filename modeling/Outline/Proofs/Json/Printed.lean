import Outline.Json.Printer
import Outline.Proofs.Json.Complete
import Outline.Proofs.Tree.Basic

/-!
# Printed descriptions

What is printed for a record is written in the grammar, and the room that a record needs is
given by its height: each level opens an object and, but for the last one, an array.

- `recordText_record` — a printed record is a record of the grammar
- `RecordText.height_le` — a record needs two units of room for each level but the last
-/

namespace Outline.Json

/-! ## §1 Strings -/

theorem hexDigit_digitChar {n : Nat} (h : n < 16) : HexDigit n n.digitChar := by
  refine ⟨h, ?_⟩
  revert n
  decide

/-- The code that is printed for a number of sixteen bits is its code. -/
theorem fourHex_fourHex {n : Nat} (h : n < 0x10000) : FourHex n (fourHex n) := by
  have hDigits : n = n / 4096 % 16 * 4096 + n / 256 % 16 * 256 + n / 16 % 16 * 16 + n % 16 := by
    omega
  have hFour := FourHex.digits (hexDigit_digitChar (Nat.mod_lt (n / 4096) (by decide)))
    (hexDigit_digitChar (Nat.mod_lt (n / 256) (by decide)))
    (hexDigit_digitChar (Nat.mod_lt (n / 16) (by decide)))
    (hexDigit_digitChar (Nat.mod_lt n (by decide)))
  rw [← hDigits] at hFour
  exact hFour

/-- What is printed for a character writes that character. -/
theorem charText_escape (c : Char) : CharText c (escape c) := by
  -- two characters and the five control characters with a letter of their own, then the other
  -- control characters by their codes, then all others as they are
  unfold escape
  split
  · rename_i hQuote
    rw [beq_iff_eq.mp hQuote]
    exact .short (by decide)
  rename_i hQuote
  split
  · rename_i hSlash
    rw [beq_iff_eq.mp hSlash]
    exact .short (by decide)
  rename_i hSlash
  split
  · rename_i hBackspace
    obtain rfl : c = '\x08' := Char.toNat_inj.mp (beq_iff_eq.mp hBackspace)
    exact .short (by decide)
  split
  · rename_i hTab
    rw [beq_iff_eq.mp hTab]
    exact .short (by decide)
  split
  · rename_i hLine
    rw [beq_iff_eq.mp hLine]
    exact .short (by decide)
  split
  · rename_i hPage
    obtain rfl : c = '\x0C' := Char.toNat_inj.mp (beq_iff_eq.mp hPage)
    exact .short (by decide)
  split
  · rename_i hReturn
    rw [beq_iff_eq.mp hReturn]
    exact .short (by decide)
  split
  · rename_i hControl
    exact .code (fourHex_fourHex (by omega))
  · rename_i hPlain
    exact .plain (by omega) (by simpa using hQuote) (by simpa using hSlash)

/-- What is printed for a text is a string of that text. -/
theorem stringText_string (text : String) : StringText text (string text) := by
  refine .quoted ?_
  induction text.toList with
  | nil => exact .nil
  | cons c chars ih =>
    rw [List.flatMap_cons]
    exact .cons (charText_escape c) ih

theorem scalarText_scalar (value : RecordValue) : ScalarText value (scalar value) := by
  cases value with
  | int value => rfl
  | text text => exact stringText_string text

/-! ## §2 Fields -/

theorem blanks_newLine (level : Nat) : Blanks (newLine level) := by
  intro c hc
  rcases List.mem_cons.mp hc with rfl | hc
  · decide
  · rw [List.eq_of_mem_replicate hc]
    decide

/-- A printed name and what is written for a field make the field. -/
theorem fieldText_key {Children : List Record → List Char → Prop} {field : Field}
    {content : List Char} (h : ContentText Children field content) :
    FieldText Children field (key field.key ++ content) := by
  have hSpace : Blanks [' '] := by
    intro c hc
    rw [List.mem_singleton.mp hc]
    decide
  have hField := FieldText.keyed (stringText_string field.key) .nil hSpace h
  simpa [key] using hField

/-- A printed optional field stands in front of those that are printed behind it. -/
theorem tail_optional {α : Type} {Children : List Record → List Char → Prop} {level : Nat}
    {name : String} {value : Option α} {print : α → List Char} {fields : List Field}
    {more : List Char} (field : α → Field) (hKey : ∀ given, (field given).key = name)
    (hContent : ∀ given, ContentText Children (field given) (print given))
    (hMore : Tail (FieldText Children) fields more) :
    Tail (FieldText Children) ((value.map field).toList ++ fields)
      (optional level name (value.map print) ++ more) := by
  cases value with
  | none => exact hMore
  | some given =>
    have hField := fieldText_key (hContent given)
    rw [hKey] at hField
    have hTail := Tail.next .nil (blanks_newLine level) hField hMore
    simpa [optional] using hTail

/-- Printed records behind others, up to a bracket on a line of its own. -/
theorem tail_moreChildren {Item : Record → List Char → Prop} {level : Nat}
    {records : List Record} {blanks : List Char}
    (hRecords : ∀ child ∈ records, Item child (record level child)) (hBlanks : Blanks blanks) :
    Tail Item records (moreChildren level records ++ blanks) := by
  induction records with
  | nil => exact .done hBlanks
  | cons first rest ih =>
    have hRest := ih fun child hChild => hRecords child (List.mem_cons_of_mem _ hChild)
    have hTail := Tail.next .nil (blanks_newLine level)
      (hRecords first (List.mem_cons_self ..)) hRest
    simpa [moreChildren] using hTail

/-- The field of children that is printed: none if there are none. -/
def childFields : List Record → List Field
  | [] => []
  | child :: rest => [.children (child :: rest)]

/-- The field of children is printed behind the others, in front of the closing brace. -/
theorem tail_childField {room level : Nat} {children : List Record} {blanks : List Char}
    (hRecords : ∀ child ∈ children, ∃ inside, room = inside + 1 ∧
      RecordText inside child (record (level + 1) child)) (hBlanks : Blanks blanks) :
    Tail (FieldText (ChildrenText room)) (childFields children)
      (childField level children ++ blanks) := by
  cases children with
  | nil => exact .done hBlanks
  | cons first rest =>
    obtain ⟨inside, rfl, -⟩ := hRecords first (List.mem_cons_self ..)
    have hEach : ∀ child ∈ first :: rest,
        RecordText inside child (record (level + 1) child) := by
      intro child hChild
      obtain ⟨room, hRoom, hRecord⟩ := hRecords child hChild
      cases hRoom
      exact hRecord
    have hTail := tail_moreChildren (fun child hChild => hEach child (List.mem_cons_of_mem _ hChild))
      (blanks_newLine level)
    have hListing := Listing.items (blanks_newLine (level + 1))
      (hEach first (List.mem_cons_self ..)) hTail
    have hChildren : ContentText (ChildrenText (inside + 1)) (.children (first :: rest))
        ('[' :: (newLine (level + 1) ++ (record (level + 1) first ++
          (moreChildren (level + 1) rest ++ newLine level)) ++ [']'])) := by
      rw [ContentText, ChildrenText]
      exact ⟨_, rfl, hListing⟩
    have hField := Tail.next .nil (blanks_newLine level) (fieldText_key hChildren) (.done hBlanks)
    simpa [childField, childFields, Field.key] using hField

/-! ## §3 Records -/

/-- The fields that are printed for a record. -/
def printedFields (record : Record) : List Field :=
  .kind record.item.kind :: ((record.item.name.map fun name => Field.name (some name)).toList ++
    ((record.item.value.map fun value => Field.value (some value)).toList ++
      childFields record.children))

theorem gathers_printedFields (record : Record) : Gathers (printedFields record) record := by
  obtain ⟨⟨kind, name, value⟩, children⟩ := record
  refine ⟨?_, ?_, ?_, ?_⟩
  · cases name <;> cases value <;> cases children <;> rfl
  · cases name with
    | none =>
      right
      cases value <;> cases children <;> exact ⟨rfl, rfl⟩
    | some name =>
      left
      cases value <;> cases children <;> rfl
  · cases value with
    | none =>
      right
      cases name <;> cases children <;> exact ⟨rfl, rfl⟩
    | some value =>
      left
      cases name <;> cases children <;> rfl
  · cases children with
    | nil =>
      right
      cases name <;> cases value <;> exact ⟨rfl, rfl⟩
    | cons first rest =>
      left
      cases name <;> cases value <;> rfl

/-- **What is printed is written in the grammar.** A record needs as much room as there are
    objects and arrays on a longest way down: one object for each level, and one array
    between two levels. -/
theorem recordText_record (tree : Record) (level needed : Nat)
    (hHeight : 2 * tree.height ≤ needed + 1) : RecordText needed tree (record level tree) := by
  induction tree using Tree.induction generalizing level needed with
  | node entry children ih =>
    cases needed with
    | zero =>
      simp only [Tree.height] at hHeight
      omega
    | succ room =>
      -- a child stands in an object and an array, so it has two units of room less
      have hChild : ∀ child ∈ children, ∃ inside, room = inside + 1 ∧
          RecordText inside child (record (level + 1 + 1) child) := by
        intro child hChild
        have hBelow := Tree.heightEach_le_iff.mp (Nat.le_refl (Tree.heightEach children)) child hChild
        have hPositive := child.height_pos
        simp only [Tree.height] at hHeight
        obtain ⟨inside, rfl⟩ := Nat.exists_eq_add_one_of_ne_zero (show room ≠ 0 by omega)
        exact ⟨inside, rfl, ih child hChild (level + 1 + 1) inside (by omega)⟩
      -- the fields from the last one to the first
      have hChildren := tail_childField hChild (blanks_newLine level)
      have hValue : Tail (FieldText (ChildrenText room)) _
          (optional (level + 1) "value" (entry.value.map scalar) ++ _) :=
        tail_optional (fun value => .value (some value)) (fun _ => rfl) scalarText_scalar hChildren
      have hName : Tail (FieldText (ChildrenText room)) _
          (optional (level + 1) "name" (entry.name.map string) ++ _) :=
        tail_optional (fun name => .name (some name)) (fun _ => rfl) stringText_string hValue
      have hKind : FieldText (ChildrenText room) (.kind entry.kind)
          (key "kind" ++ string entry.kind) := fieldText_key (stringText_string entry.kind)
      have hListing := Listing.items (blanks_newLine (level + 1)) hKind hName
      have hObject := FieldsText.object (gathers_printedFields ⟨entry, children⟩) hListing
      rw [RecordText]
      simpa [record, fields] using hObject

/-! ## §4 Heights -/

theorem Tail.exists_text {α : Type} {Item : α → List Char → Prop} {items : List α}
    {text : List Char} (h : Tail Item items text) : ∀ item ∈ items, ∃ written, Item item written := by
  induction h with
  | done hBlanks =>
    intro item hItem
    cases hItem
  | next hBefore hAfter hFirst hRest ih =>
    intro item hItem
    rcases List.mem_cons.mp hItem with rfl | hItem
    · exact ⟨_, hFirst⟩
    · exact ih item hItem

theorem Listing.exists_text {α : Type} {Item : α → List Char → Prop} {items : List α}
    {text : List Char} (h : Listing Item items text) :
    ∀ item ∈ items, ∃ written, Item item written := by
  intro item hItem
  cases h with
  | empty hBlanks => cases hItem
  | items hBefore hFirst hRest =>
    rcases List.mem_cons.mp hItem with rfl | hItem
    · exact ⟨_, hFirst⟩
    · exact hRest.exists_text item hItem

/-- Children that a record has are given by one of its fields. -/
theorem Gathers.children_mem {fields : List Field} {record : Record} (h : Gathers fields record) :
    record.children = [] ∨ Field.children record.children ∈ fields := by
  rcases h.children with hGiven | ⟨-, hNone⟩
  · right
    have hMem : record.children ∈ fields.filterMap Field.children? := by
      rw [hGiven]
      exact List.mem_singleton_self _
    obtain ⟨field, hField, hChildren⟩ := List.mem_filterMap.mp hMem
    cases field with
    | children given =>
      cases hChildren
      exact hField
    | kind | name | value | other => cases hChildren
  · exact .inl hNone

/-- Children that a record has are written somewhere in it. -/
theorem FieldsText.exists_children {Children : List Record → List Char → Prop} {record : Record}
    {text : List Char} (h : FieldsText Children record text) :
    record.children = [] ∨ ∃ written, Children record.children written := by
  cases h with
  | object hFields hInner =>
    rcases hFields.children_mem with hNone | hMem
    · exact .inl hNone
    · obtain ⟨_, hField⟩ := hInner.exists_text _ hMem
      cases hField with
      | keyed hName hBefore hAfter hContent => exact .inr ⟨_, hContent⟩
  | array kind name value children hPrefix hFields hInner =>
    rcases hFields.children_mem with hNone | hMem
    · exact .inl hNone
    · exact .inr (hInner.exists_text _ hMem)

/-- A record of the grammar has no more levels than there is room for: all but the last one
    take two units of it. -/
theorem RecordText.height_le {needed : Nat} {record : Record} {text : List Char}
    (h : RecordText needed record text) : 2 * record.height ≤ needed + 1 := by
  induction needed using Nat.strongRecOn generalizing record text with
  | ind needed ih =>
    obtain ⟨entry, children⟩ := record
    cases needed with
    | zero => cases h
    | succ room =>
      rw [RecordText] at h
      rcases h.exists_children with hNone | ⟨written, hChildren⟩
      · obtain rfl : children = [] := hNone
        simp only [Tree.height, Tree.heightEach]
        omega
      · -- two units of room are taken before a child begins
        cases room with
        | zero => cases hChildren
        | succ inside =>
          rw [ChildrenText] at hChildren
          obtain ⟨inner, -, hInner⟩ := hChildren
          have hEach : Tree.heightEach children ≤ (inside + 1) / 2 := by
            refine Tree.heightEach_le_iff.mpr fun child hChild => ?_
            obtain ⟨text, hText⟩ := hInner.exists_text child hChild
            have := ih inside (by omega) hText
            omega
          simp only [Tree.height]
          omega

/-- What is described has at most 64 levels. -/
theorem DescriptionText.height_le {record : Record} {text : List Char}
    (h : DescriptionText record text) : record.height ≤ 64 := by
  cases h with
  | padded hBefore hText hAfter =>
    have := hText.height_le
    omega

end Outline.Json
