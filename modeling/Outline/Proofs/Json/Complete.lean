import Outline.Proofs.Json.Fields

/-!
# What is described is read

Every text of the grammar is read as the record that it describes, provided that there is
room for all the arrays and objects that are open at once. Where the room does not suffice
the text is malformed, whatever else it holds.

- `Within` — the result of reading a text that needs some room
- `recordAt_of_begins` — every record is read, or there is no room for it
-/

namespace Outline.Json

/-! ## §1 Room -/

/-- The result is the value, or else there is less room than needed and the text counts as
    malformed. -/
def Within {α : Type} (room needed : Nat) (value : α) (result : Except Problem α) : Prop :=
  result = .ok value ∨ room < needed ∧ result = .error .malformed

theorem Within.eq_ok {α : Type} {room needed : Nat} {value : α} {result : Except Problem α}
    (h : Within room needed value result) (hRoom : needed ≤ room) : result = .ok value := by
  rcases h with hOk | ⟨hLess, -⟩
  · exact hOk
  · omega

/-- An array or object takes one unit of room and needs one more than what is inside. -/
theorem Within.opened {α : Type} {room needed : Nat} {value : α} {result : Except Problem α}
    (h : Within room needed value result) : Within (room + 1) (needed + 1) value result := by
  rcases h with hOk | ⟨hLess, hError⟩
  · exact .inl hOk
  · exact .inr ⟨by omega, hError⟩

/-! ## §2 First characters -/

theorem ChildrenText.exists_cons {needed : Nat} {children : List Record} {text : List Char}
    (h : ChildrenText needed children text) : ∃ more, text = '[' :: more := by
  cases needed with
  | zero => cases h
  | succ needed =>
    rw [ChildrenText] at h
    obtain ⟨inner, rfl, -⟩ := h
    exact ⟨_, rfl⟩

theorem ChildrenText.solid {needed : Nat} {children : List Record} {text : List Char}
    (h : ChildrenText needed children text) : Solid text := by
  obtain ⟨more, rfl⟩ := h.exists_cons
  exact .cons (by decide) (by decide)

theorem RecordText.solid {needed : Nat} {record : Record} {text : List Char}
    (h : RecordText needed record text) : Solid text := by
  cases needed with
  | zero => cases h
  | succ needed =>
    rw [RecordText] at h
    cases h <;> exact .cons (by decide) (by decide)

/-- What is written for a field is solid if children are. -/
theorem ContentText.solid {Children : List Record → List Char → Prop}
    (hChildren : ∀ children written, Children children written → Solid written) {field : Field}
    {written : List Char} (h : ContentText Children field written) : Solid written := by
  cases field with
  | kind kind => exact StringText.solid h
  | name name => exact NullOr.solid (fun _ _ => StringText.solid) h
  | value value => exact NullOr.solid (fun _ _ hScalar => (ScalarText.solid hScalar).1) h
  | children children => exact hChildren children written h
  | other name => exact IgnoredText.solid h.2

/-- No number goes on behind an item. -/
theorem stops_items {α : Type} {Item : α → List Char → Prop} {items : List α} {mark : Char}
    {more rest : List Char} (h : Items Item false items more) (hMark : mark ∈ [']', '}', ',']) :
    Stops (more ++ mark :: rest) := by
  cases items with
  | nil => exact .blanks (items_nil_iff.mp h) (stops_mark hMark)
  | cons first others =>
    obtain ⟨_, item, later, ⟨before, after, hBefore, hAfter, rfl⟩, -, -, rfl⟩ :=
      items_cons_iff.mp h
    simp only [List.append_assoc, List.cons_append]
    exact .blanks hBefore (stops_mark (by decide))

/-! ## §3 Fields -/

/-- A field that is there is read and added to the draft, unless there is no room for the
    children that it holds. -/
theorem membersAt_field {fuel room needed : Nat} {Children : List Record → List Char → Prop}
    {isFirst : Bool} {draft next : Draft} {field : Field}
    {text quoted named content behind : List Char}
    (hChildren : ∀ children, Begins Children children content behind →
      Within room needed (children, behind) (childrenAt fuel room content))
    (hNext : nextField isFirst text = .ok (some quoted))
    (hName : Json.text quoted = .ok (field.key, named)) (hColon : colon named = .ok content)
    (hContent : Begins (ContentText Children) field content behind) (hStops : Stops behind)
    (hAdd : add? draft field = some next) :
    membersAt (fuel + 1) room isFirst draft text = membersAt fuel room false next behind ∨
      room < needed ∧ membersAt (fuel + 1) room isFirst draft text = .error .malformed := by
  -- each field is read as its text says, and its slot of the draft is free by `hAdd`
  cases field with
  | kind kind =>
    have hRead : colon named >>= stringAt = .ok (kind, behind) :=
      bind_eq_ok_iff.mpr ⟨content, hColon, stringAt_eq_ok_iff.mpr hContent⟩
    obtain ⟨hFree, hDraft⟩ := Option.ite_none_left_eq_some.mp hAdd
    cases hDraft
    simp only [Field.key] at hName
    left
    simp only [membersAt, hNext, hName, hRead, if_neg hFree]
  | name name =>
    have hRead : colon named >>= optionalString = .ok (name, behind) :=
      bind_eq_ok_iff.mpr ⟨content, hColon, optionalString_eq_ok_iff.mpr hContent⟩
    obtain ⟨hFree, hDraft⟩ := Option.ite_none_left_eq_some.mp hAdd
    cases hDraft
    simp only [Field.key] at hName
    left
    simp only [membersAt, hNext, hName, hRead, if_neg hFree]
  | value value =>
    have hRead : colon named >>= optionalValue room = .ok (value, behind) :=
      bind_eq_ok_iff.mpr ⟨content, hColon, optionalValue_of_begins room hContent hStops⟩
    obtain ⟨hFree, hDraft⟩ := Option.ite_none_left_eq_some.mp hAdd
    cases hDraft
    simp only [Field.key] at hName
    left
    simp only [membersAt, hNext, hName, hRead, if_neg hFree]
  | children children =>
    obtain ⟨hFree, hDraft⟩ := Option.ite_none_left_eq_some.mp hAdd
    cases hDraft
    simp only [Field.key] at hName
    -- only children can lack room
    rcases hChildren children hContent with hRead | ⟨hRoom, hRead⟩
    · left
      simp only [membersAt, hNext, hName, hColon, hRead, if_neg hFree]
    · right
      refine ⟨hRoom, ?_⟩
      simp only [membersAt, hNext, hName, hColon, hRead, if_neg hFree]
  | other name =>
    -- the name is none of the four, so the value is skipped
    obtain ⟨blanks, written, hBlanks, ⟨hStrange, hWritten⟩, rfl⟩ := hContent
    have hRead : colon named >>= skipAny = .ok behind :=
      bind_eq_ok_iff.mpr ⟨_, hColon, skipAny_append hBlanks hWritten hStops⟩
    simp only [List.mem_cons, List.not_mem_nil, or_false, not_or] at hStrange
    obtain ⟨hKind, hNames, hValue, hOther⟩ := hStrange
    cases hAdd
    left
    simp only [Field.key] at hName
    simp only [membersAt, hNext, hName, hRead]

/-- The first of some items is found, and the others stand behind it. -/
theorem Items.next {α : Type} {Item : α → List Char → Prop} {isFirst : Bool} {first : α}
    {others : List α} {inner : List Char} (h : Items Item isFirst (first :: others) inner)
    (hSolid : ∀ item, Item first item → Solid item) (rest : List Char) :
    ∃ item more, nextItem isFirst (inner ++ rest) = .ok (some item) ∧
      Begins Item first item (more ++ rest) ∧ Items Item false others more ∧
      item.length ≤ (inner ++ rest).length ∧ more.length < inner.length := by
  obtain ⟨lead, item, more, hLead, hItem, hMore, rfl⟩ := items_cons_iff.mp h
  refine ⟨item ++ (more ++ rest), more, ?_, ⟨[], item, .nil, hItem, rfl⟩, hMore, ?_, ?_⟩
  · rw [List.append_assoc, List.append_assoc]
    exact nextItem_append hLead ((hSolid item hItem).append _)
  · simp only [List.length_append]
    omega
  · cases hSolid item hItem
    simp only [List.length_append, List.length_cons]
    omega

theorem Items.last {α : Type} {Item : α → List Char → Prop} {isFirst : Bool} {inner : List Char}
    (h : Items Item isFirst [] inner) (rest : List Char) :
    nextItem isFirst (inner ++ ']' :: rest) = .ok none ∧
      closing ']' (inner ++ ']' :: rest) = .ok rest := by
  have hBlanks := items_nil_iff.mp h
  exact ⟨nextItem_eq_none_iff.mpr ⟨inner, rest, hBlanks, rfl⟩,
    (closing_eq_ok_iff (by decide)).mpr ⟨inner, hBlanks, rfl⟩⟩

/-- The fields of an array are read up to its bracket, unless there is no room for the
    children among them. -/
theorem positional_append {room needed : Nat} {readChildren : List Char → Parsed (List Record)}
    {Children : List Record → List Char → Prop} {fields : List Field} {inner : List Char}
    {record : Record} {kind : String} {name : Option String} {value : Option RecordValue}
    {children : List Record} (rest : List Char)
    (hSolid : ∀ children written, Children children written → Solid written)
    (hChildren : ∀ text children behind, text.length ≤ (inner ++ ']' :: rest).length →
      Begins Children children text behind →
      Within room needed (children, behind) (readChildren text))
    (hPrefix : fields <+: [.kind kind, .name name, .value value, .children children])
    (hFields : Gathers fields record) (hInner : Listing (ContentText Children) fields inner) :
    ∃ behind, closing ']' behind = .ok rest ∧
      Within room needed (record, behind) (positional room readChildren (inner ++ ']' :: rest)) := by
  -- the array ends behind the first, second, third or fourth field; at each of these places
  -- the draft of the fields so far is the record
  have hContents : ∀ field written, ContentText Children field written → Solid written :=
    fun _ _ => ContentText.solid hSolid
  have hDraft := completes_empty_iff.mpr hFields
  have hItems : Items (ContentText Children) true fields inner := hInner
  rcases List.prefix_cons_iff.mp hPrefix with rfl | ⟨fromName, rfl, hFromName⟩
  · -- without any field the kind is missing
    cases hDraft.kind
  obtain ⟨first, afterKind, hFirst, hKind, hItems, -, hLessKind⟩ :=
    hItems.next (hContents _) (']' :: rest)
  replace hKind := stringAt_eq_ok_iff.mpr hKind
  obtain ⟨_, ⟨⟩, hDraft⟩ := completes_cons_iff.mp hDraft
  rcases List.prefix_cons_iff.mp hFromName with rfl | ⟨fromValue, rfl, hFromValue⟩
  · obtain ⟨hEnd, hClose⟩ := hItems.last rest
    cases completes_nil_iff.mp hDraft
    refine ⟨_, hClose, .inl ?_⟩
    simp only [positional, hFirst, hKind, hEnd, bind, Except.bind]
    rfl
  obtain ⟨second, afterName, hSecond, hName, hItems, -, hLessName⟩ :=
    hItems.next (hContents _) (']' :: rest)
  replace hName := optionalString_eq_ok_iff.mpr hName
  obtain ⟨_, ⟨⟩, hDraft⟩ := completes_cons_iff.mp hDraft
  rcases List.prefix_cons_iff.mp hFromValue with rfl | ⟨fromChildren, rfl, hFromChildren⟩
  · obtain ⟨hEnd, hClose⟩ := hItems.last rest
    cases completes_nil_iff.mp hDraft
    refine ⟨_, hClose, .inl ?_⟩
    simp only [positional, hFirst, hKind, hSecond, hName, hEnd, bind, Except.bind]
    rfl
  obtain ⟨third, afterValue, hThird, hValue, hItems, -, hLessValue⟩ :=
    hItems.next (hContents _) (']' :: rest)
  replace hValue := optionalValue_of_begins room hValue (stops_items hItems (by decide))
  obtain ⟨_, ⟨⟩, hDraft⟩ := completes_cons_iff.mp hDraft
  rcases List.prefix_cons_iff.mp hFromChildren with rfl | ⟨others, rfl, hOthers⟩
  · obtain ⟨hEnd, hClose⟩ := hItems.last rest
    cases completes_nil_iff.mp hDraft
    refine ⟨_, hClose, .inl ?_⟩
    simp only [positional, hFirst, hKind, hSecond, hName, hThird, hValue, hEnd, bind, Except.bind]
    rfl
  obtain ⟨fourth, behind, hFourth, hBegins, hItems, hShort, -⟩ :=
    hItems.next (hContents _) (']' :: rest)
  obtain rfl := List.prefix_nil.mp hOthers
  obtain ⟨-, hClose⟩ := hItems.last rest
  obtain ⟨_, ⟨⟩, hDraft⟩ := completes_cons_iff.mp hDraft
  cases completes_nil_iff.mp hDraft
  -- the children are the last field, and only they can lack room
  have hLength : fourth.length ≤ (inner ++ ']' :: rest).length := by
    simp only [List.length_append, List.length_cons] at hShort ⊢
    omega
  refine ⟨_, hClose, ?_⟩
  rcases hChildren fourth children _ hLength hBegins with hRead | ⟨hRoom, hRead⟩
  · left
    simp only [positional, hFirst, hKind, hSecond, hName, hThird, hValue, hFourth, hRead, bind,
      Except.bind]
    rfl
  · right
    refine ⟨hRoom, ?_⟩
    simp only [positional, hFirst, hKind, hSecond, hName, hThird, hValue, hFourth, hRead, bind,
      Except.bind]

/-! ## §4 Records and children -/

/-- Within `fuel` steps every record is read that is short enough for them. -/
def RecordsComplete (fuel : Nat) : Prop :=
  ∀ room needed text record rest, Begins (RecordText needed) record text rest →
    2 * text.length + 1 ≤ fuel → Within room needed (record, rest) (recordAt fuel room text)

/-- Within `fuel` steps all fields are read that are short enough for them, and the record
    that they complete the draft to is made of them. -/
def MembersComplete (fuel : Nat) : Prop :=
  ∀ room needed isFirst draft fields inner record rest, Completes draft fields record →
    Items (FieldText (ChildrenText needed)) isFirst fields inner →
    2 * (inner ++ '}' :: rest).length + 1 ≤ fuel →
    Within room needed (record, rest) (membersAt fuel room isFirst draft (inner ++ '}' :: rest))

/-- Within `fuel` steps all children are read that are short enough for them. -/
def ChildrenComplete (fuel : Nat) : Prop :=
  ∀ room needed text children rest, Begins (ChildrenText needed) children text rest →
    2 * text.length + 1 ≤ fuel → Within room needed (children, rest) (childrenAt fuel room text)

/-- Within `fuel` steps all items are read that are short enough for them. -/
def ItemsComplete (fuel : Nat) : Prop :=
  ∀ room needed isFirst records inner rest, Items (RecordText needed) isFirst records inner →
    2 * (inner ++ ']' :: rest).length + 2 ≤ fuel →
    Within room needed (records, rest) (itemsAt fuel room isFirst (inner ++ ']' :: rest))

/-- A record is read in one step more than its fields. -/
theorem RecordsComplete.succ {fuel : Nat} (hMembers : MembersComplete fuel)
    (hChildren : ChildrenComplete fuel) : RecordsComplete (fuel + 1) := by
  intro room needed text record rest hBegins hFuel
  have hLength := length_skipBlank_le text
  obtain ⟨written, hWritten, hText⟩ := hBegins.skipBlank fun _ => RecordText.solid
  rw [hText] at hLength
  cases needed with
  | zero => cases hWritten
  | succ needed =>
    rw [RecordText] at hWritten
    -- the opening mark takes one unit of room, and without any the text is malformed at once
    cases hWritten with
    | @object fields inner hFields hInner =>
      simp only [List.cons_append, List.append_assoc, List.nil_append, List.length_cons]
        at hText hLength
      rw [recordAt, hText]
      cases room with
      | zero => exact .inr ⟨Nat.succ_pos needed, rfl⟩
      | succ room =>
        exact (hMembers room needed true {} fields inner record rest
          (completes_empty_iff.mpr hFields) hInner (by omega)).opened
    | @array fields inner kind name value children hPrefix hFields hInner =>
      simp only [List.cons_append, List.append_assoc, List.nil_append, List.length_cons]
        at hText hLength
      rw [recordAt, hText]
      cases room with
      | zero => exact .inr ⟨Nat.succ_pos needed, rfl⟩
      | succ room =>
        obtain ⟨behind, hClose, hRead⟩ := positional_append rest (fun _ _ => ChildrenText.solid)
          (fun text children behind hShort hBegins =>
            hChildren room needed text children behind hBegins (by omega))
          hPrefix hFields hInner
        rcases hRead with hRead | ⟨hRoom, hRead⟩
        · left
          simp only [hRead]
          exact map_eq_ok_iff.mpr ⟨rest, hClose, rfl⟩
        · right
          refine ⟨by omega, ?_⟩
          simp only [hRead]

/-- Fields are read in one step more than the first of them. -/
theorem MembersComplete.succ {fuel : Nat} (hChildren : ChildrenComplete fuel)
    (hMembers : MembersComplete fuel) : MembersComplete (fuel + 1) := by
  intro room needed isFirst draft fields inner record rest hDraft hItems hFuel
  cases fields with
  | nil =>
    left
    have hBlanks := items_nil_iff.mp hItems
    have hEnd : nextField isFirst (inner ++ '}' :: rest) = .ok none :=
      nextField_eq_none_iff.mpr ⟨inner, rest, hBlanks, rfl⟩
    have hClose : closing '}' (inner ++ '}' :: rest) = .ok rest :=
      (closing_eq_ok_iff (by decide)).mpr ⟨inner, hBlanks, rfl⟩
    simp only [membersAt, hEnd, completes_nil_iff.mp hDraft]
    exact map_eq_ok_iff.mpr ⟨rest, hClose, rfl⟩
  | cons field fields =>
    obtain ⟨lead, written, more, hLead, hField, hOthers, rfl⟩ := items_cons_iff.mp hItems
    obtain ⟨next, hAdd, hDraft⟩ := completes_cons_iff.mp hDraft
    obtain ⟨quoted, rfl⟩ := hField.exists_cons
    -- the field is found, and what is written for it is shorter than what is left to read
    have hNext : nextField isFirst (lead ++ ('"' :: quoted ++ more) ++ '}' :: rest) =
        .ok (some (quoted ++ (more ++ '}' :: rest))) :=
      nextField_eq_some_iff.mpr ⟨lead, hLead, by simp⟩
    have hQuoted : '"' :: (quoted ++ (more ++ '}' :: rest)) =
        '"' :: quoted ++ (more ++ '}' :: rest) := rfl
    obtain ⟨named, content, hName, hColon, hContent⟩ := fieldText_iff.mp ⟨_, hField, hQuoted⟩
    have hShort := length_content_lt hName hColon
    simp only [List.length_append, List.length_cons] at hFuel hShort
    have hRead : ∀ children, Begins (ChildrenText needed) children content (more ++ '}' :: rest) →
        Within room needed (children, more ++ '}' :: rest) (childrenAt fuel room content) :=
      fun children hBegins => hChildren _ _ _ _ _ hBegins (by omega)
    -- the other fields complete the draft that has this one
    have hMore := hMembers room needed false next fields more record rest hDraft hOthers
      (by simp only [List.length_append, List.length_cons]; omega)
    rcases membersAt_field hRead hNext hName hColon hContent (stops_items hOthers (by decide)) hAdd
      with hStep | hStep
    · rw [hStep]
      exact hMore
    · exact .inr hStep

/-- Children are read in one step more than their list. -/
theorem ChildrenComplete.succ {fuel : Nat} (hItems : ItemsComplete fuel) :
    ChildrenComplete (fuel + 1) := by
  intro room needed text children rest hBegins hFuel
  have hLength := length_skipBlank_le text
  obtain ⟨written, hWritten, hText⟩ := hBegins.skipBlank fun _ => ChildrenText.solid
  rw [hText] at hLength
  cases needed with
  | zero => cases hWritten
  | succ needed =>
    rw [ChildrenText] at hWritten
    obtain ⟨inner, rfl, hInner⟩ := hWritten
    simp only [List.cons_append, List.append_assoc, List.nil_append, List.length_cons]
      at hText hLength
    rw [childrenAt, hText]
    cases room with
    | zero => exact .inr ⟨Nat.succ_pos needed, rfl⟩
    | succ room => exact (hItems room needed true children inner rest hInner (by omega)).opened

/-- Items are read in one step more than the first of them. -/
theorem ItemsComplete.succ {fuel : Nat} (hRecords : RecordsComplete fuel)
    (hItems : ItemsComplete fuel) : ItemsComplete (fuel + 1) := by
  intro room needed isFirst records inner rest hInner hFuel
  cases records with
  | nil =>
    left
    obtain ⟨hEnd, hClose⟩ := hInner.last rest
    simp only [itemsAt, hEnd]
    exact map_eq_ok_iff.mpr ⟨rest, hClose, rfl⟩
  | cons record records =>
    obtain ⟨item, more, hNext, hRecord, hMore, hShort, hLess⟩ :=
      hInner.next (fun _ => RecordText.solid) (']' :: rest)
    -- the first record takes no character away from `fuel`, hence the extra step of the bound
    rcases hRecords room needed item record _ hRecord (by omega) with hRead | ⟨hRoom, hRead⟩
    · have hFewer : 2 * (more ++ ']' :: rest).length + 2 ≤ fuel := by
        simp only [List.length_append] at hFuel ⊢
        omega
      rcases hItems room needed false records more rest hMore hFewer with hOthers | ⟨hRoom, hOthers⟩
      · left
        simp only [itemsAt, hNext, hRead, hOthers]
      · right
        refine ⟨hRoom, ?_⟩
        simp only [itemsAt, hNext, hRead, hOthers]
    · right
      refine ⟨hRoom, ?_⟩
      simp only [itemsAt, hNext, hRead]

/-- Two steps for each character are enough, whatever is read. -/
theorem complete (fuel : Nat) :
    RecordsComplete fuel ∧ MembersComplete fuel ∧ ChildrenComplete fuel ∧ ItemsComplete fuel := by
  induction fuel with
  | zero =>
    -- no text is short enough for no steps at all
    refine ⟨?_, ?_, ?_, ?_⟩
    · intro room needed text record rest _ hFuel
      omega
    · intro room needed isFirst draft fields inner record rest _ _ hFuel
      omega
    · intro room needed text children rest _ hFuel
      omega
    · intro room needed isFirst records inner rest _ hFuel
      omega
  | succ fuel ih =>
    obtain ⟨hRecords, hMembers, hChildren, hItems⟩ := ih
    exact ⟨.succ hMembers hChildren, .succ hChildren hMembers, .succ hItems,
      .succ hRecords hItems⟩

/-- **Completeness of reading.** A text that begins with a record is read as that record, or
    there is no room for it and the text counts as malformed. -/
theorem recordAt_of_begins (room : Nat) {needed : Nat} {text rest : List Char} {record : Record}
    (h : Begins (RecordText needed) record text rest) :
    Within room needed (record, rest) (recordAt (enough text) room text) :=
  (complete (enough text)).1 room needed text record rest h (Nat.le_succ _)

end Outline.Json
