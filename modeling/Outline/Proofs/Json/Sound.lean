import Outline.Proofs.Json.Fields

/-!
# What is read is described

Whatever the reader of descriptions accepts is written in the grammar, and what it returns is
what the text describes.

- `recordAt_eq_ok` — what is read as a record is one
-/

namespace Outline.Json

/-! ## §1 Fields -/

/-- What one step does to the fields of an object: either the brace closes and the draft is
    finished, or one more field is read and added to the draft. -/
theorem membersAt_cases {fuel room : Nat} {Children : List Record → List Char → Prop}
    (hChildren : ∀ text children rest, childrenAt fuel room text = .ok (children, rest) →
      Begins Children children text rest)
    {isFirst : Bool} {draft : Draft} {text rest : List Char} {record : Record}
    (h : membersAt (fuel + 1) room isFirst draft text = .ok (record, rest)) :
    (draft.finish = .ok record ∧ closing '}' text = .ok rest) ∨
    ∃ quoted named content field next behind, nextField isFirst text = .ok (some quoted) ∧
      Json.text quoted = .ok (field.key, named) ∧ colon named = .ok content ∧
      Begins (ContentText Children) field content behind ∧ add? draft field = some next ∧
      membersAt fuel room false next behind = .ok (record, rest) := by
  rw [membersAt] at h
  split at h
  · cases h
  · split at h
    · cases h
    · rename_i hFinish
      obtain ⟨behind, hClose, hEq⟩ := map_eq_ok_iff.mp h
      cases hEq
      exact .inl ⟨hFinish, hClose⟩
  · rename_i quoted hNext
    right
    -- by the name of the field; a field that is there already is an error in each case
    split at h
    · cases h
    · rename_i named hName
      split at h
      · cases h
      · rename_i hFree
        split at h
        · cases h
        · rename_i kind behind hRead
          obtain ⟨content, hColon, hKind⟩ := bind_eq_ok_iff.mp hRead
          exact ⟨quoted, named, content, .kind kind, _, behind, hNext, hName, hColon,
            stringAt_eq_ok_iff.mp hKind, if_neg hFree, h⟩
    · rename_i named hName
      split at h
      · cases h
      · rename_i hFree
        split at h
        · cases h
        · rename_i name behind hRead
          obtain ⟨content, hColon, hValue⟩ := bind_eq_ok_iff.mp hRead
          exact ⟨quoted, named, content, .name name, _, behind, hNext, hName, hColon,
            optionalString_eq_ok_iff.mp hValue, if_neg hFree, h⟩
    · rename_i named hName
      split at h
      · cases h
      · rename_i hFree
        split at h
        · cases h
        · rename_i value behind hRead
          obtain ⟨content, hColon, hValue⟩ := bind_eq_ok_iff.mp hRead
          exact ⟨quoted, named, content, .value value, _, behind, hNext, hName, hColon,
            optionalValue_eq_ok hValue, if_neg hFree, h⟩
    · rename_i named hName
      split at h
      · cases h
      · rename_i hFree
        split at h
        · cases h
        · rename_i content hColon
          split at h
          · cases h
          · rename_i children behind hRead
            exact ⟨quoted, named, content, .children children, _, behind, hNext, hName, hColon,
              hChildren _ _ _ hRead, if_neg hFree, h⟩
    · rename_i name named hKind hNames hValue hOther hName
      split at h
      · cases h
      · -- a field of another name leaves the draft as it is
        rename_i behind hRead
        obtain ⟨content, hColon, hSkip⟩ := bind_eq_ok_iff.mp hRead
        obtain ⟨blanks, written, hBlanks, hWritten, hText⟩ := skipAny_eq_ok hSkip
        have hStrange : name ∉ ["kind", "name", "value", "children"] := by
          simp only [List.mem_cons, List.not_mem_nil, or_false]
          rintro (rfl | rfl | rfl | rfl)
          · exact hKind rfl
          · exact hNames rfl
          · exact hValue rfl
          · exact hOther rfl
        exact ⟨quoted, named, content, .other name, draft, behind, hNext, hName, hColon,
          ⟨blanks, written, hBlanks, ⟨hStrange, hWritten⟩, hText⟩, rfl, h⟩

/-- What is read as the fields of an array, up to its bracket, is a record in this form. -/
theorem positional_eq_ok {room : Nat} {readChildren : List Char → Parsed (List Record)}
    {Children : List Record → List Char → Prop}
    (hChildren : ∀ text children rest, readChildren text = .ok (children, rest) →
      Begins Children children text rest)
    {text behind rest : List Char} {record : Record}
    (h : positional room readChildren text = .ok (record, behind))
    (hClose : closing ']' behind = .ok rest) :
    ∃ inner, FieldsText Children record ('[' :: (inner ++ [']'])) ∧ text = inner ++ ']' :: rest := by
  obtain ⟨blanks, hBlanks, rfl⟩ := (closing_eq_ok_iff (by decide)).mp hClose
  have hEnd : Items (ContentText Children) false [] blanks := items_nil_iff.mpr hBlanks
  -- the array may end behind each field; the list is then put together from its end
  unfold positional at h
  obtain ⟨first, hFirst, h⟩ := bind_eq_ok_iff.mp h
  cases first with
  | none => cases h
  | some first =>
    obtain ⟨⟨kind, afterKind⟩, hKind, h⟩ := bind_eq_ok_iff.mp h
    have hKind : Begins (ContentText Children) (.kind kind) first afterKind :=
      stringAt_eq_ok_iff.mp hKind
    obtain ⟨second, hSecond, h⟩ := bind_eq_ok_iff.mp h
    cases second with
    | none =>
      cases h
      obtain ⟨inner, hInner, hText⟩ := items_of_nextItem hFirst hKind hEnd
      exact ⟨inner, .array kind none none [] ⟨_, rfl⟩ ⟨rfl, .inr ⟨rfl, rfl⟩, .inr ⟨rfl, rfl⟩,
        .inr ⟨rfl, rfl⟩⟩ hInner, hText⟩
    | some second =>
      obtain ⟨⟨name, afterName⟩, hName, h⟩ := bind_eq_ok_iff.mp h
      have hName : Begins (ContentText Children) (.name name) second afterName :=
        optionalString_eq_ok_iff.mp hName
      obtain ⟨third, hThird, h⟩ := bind_eq_ok_iff.mp h
      cases third with
      | none =>
        cases h
        obtain ⟨later, hLater, rfl⟩ := items_of_nextItem hSecond hName hEnd
        obtain ⟨inner, hInner, hText⟩ := items_of_nextItem hFirst hKind hLater
        exact ⟨inner, .array kind name none [] ⟨_, rfl⟩ ⟨rfl, .inl rfl, .inr ⟨rfl, rfl⟩,
          .inr ⟨rfl, rfl⟩⟩ hInner, hText⟩
      | some third =>
        obtain ⟨⟨value, afterValue⟩, hValue, h⟩ := bind_eq_ok_iff.mp h
        have hValue : Begins (ContentText Children) (.value value) third afterValue :=
          optionalValue_eq_ok hValue
        obtain ⟨fourth, hFourth, h⟩ := bind_eq_ok_iff.mp h
        cases fourth with
        | none =>
          cases h
          obtain ⟨last, hLast, rfl⟩ := items_of_nextItem hThird hValue hEnd
          obtain ⟨later, hLater, rfl⟩ := items_of_nextItem hSecond hName hLast
          obtain ⟨inner, hInner, hText⟩ := items_of_nextItem hFirst hKind hLater
          exact ⟨inner, .array kind name value [] ⟨_, rfl⟩ ⟨rfl, .inl rfl, .inl rfl,
            .inr ⟨rfl, rfl⟩⟩ hInner, hText⟩
        | some fourth =>
          obtain ⟨⟨children, afterChildren⟩, hRead, h⟩ := bind_eq_ok_iff.mp h
          cases h
          have hRead : Begins (ContentText Children) (.children children) fourth _ :=
            hChildren _ _ _ hRead
          obtain ⟨final, hFinal, rfl⟩ := items_of_nextItem hFourth hRead hEnd
          obtain ⟨last, hLast, rfl⟩ := items_of_nextItem hThird hValue hFinal
          obtain ⟨later, hLater, rfl⟩ := items_of_nextItem hSecond hName hLast
          obtain ⟨inner, hInner, hText⟩ := items_of_nextItem hFirst hKind hLater
          exact ⟨inner, .array kind name value children ⟨_, rfl⟩ ⟨rfl, .inl rfl, .inl rfl,
            .inl rfl⟩ hInner, hText⟩

/-! ## §2 Records and children -/

/-- Within `fuel` steps, what is read as a record is one. -/
def RecordsSound (fuel : Nat) : Prop :=
  ∀ room text record rest, recordAt fuel room text = .ok (record, rest) →
    Begins (RecordText room) record text rest

/-- Within `fuel` steps, what is read as fields is a list of fields that completes the
    draft. -/
def MembersSound (fuel : Nat) : Prop :=
  ∀ room isFirst draft text record rest,
    membersAt fuel room isFirst draft text = .ok (record, rest) →
    ∃ fields inner, Completes draft fields record ∧
      Items (FieldText (ChildrenText room)) isFirst fields inner ∧ text = inner ++ '}' :: rest

/-- Within `fuel` steps, what is read as children is an array of records. -/
def ChildrenSound (fuel : Nat) : Prop :=
  ∀ room text children rest, childrenAt fuel room text = .ok (children, rest) →
    Begins (ChildrenText room) children text rest

/-- Within `fuel` steps, what is read as items is a list of records. -/
def ItemsSound (fuel : Nat) : Prop :=
  ∀ room isFirst text records rest, itemsAt fuel room isFirst text = .ok (records, rest) →
    ∃ inner, Items (RecordText room) isFirst records inner ∧ text = inner ++ ']' :: rest

/-- A record is an object or an array of its fields. -/
theorem RecordsSound.succ {fuel : Nat} (hMembers : MembersSound fuel)
    (hChildren : ChildrenSound fuel) : RecordsSound (fuel + 1) := by
  intro room text record rest h
  rw [recordAt] at h
  split at h
  · -- each brace and each bracket takes a place of the room, if there is one
    rename_i inside hBrace
    split at h
    · cases h
    · rename_i room
      obtain ⟨fields, inner, hFields, hInner, rfl⟩ := hMembers _ _ _ _ _ _ h
      have hRecord : RecordText (room + 1) record ('{' :: (inner ++ ['}'])) := by
        rw [RecordText]
        exact .object (completes_empty_iff.mp hFields) hInner
      exact begins_of_skipBlank hRecord (by rw [hBrace]; simp)
  · rename_i inside hBracket
    split at h
    · cases h
    · rename_i room
      split at h
      · cases h
      · rename_i read behind hPositional
        obtain ⟨after, hClose, hEq⟩ := map_eq_ok_iff.mp h
        cases hEq
        obtain ⟨inner, hInner, rfl⟩ :=
          positional_eq_ok (fun text children rest => hChildren room text children rest)
            hPositional hClose
        have hRecord : RecordText (room + 1) record ('[' :: (inner ++ [']'])) := by
          rw [RecordText]
          exact hInner
        exact begins_of_skipBlank hRecord (by rw [hBracket]; simp)
  · cases h

/-- One more field is put in front of those that are read behind it. -/
theorem MembersSound.succ {fuel : Nat} (hChildren : ChildrenSound fuel)
    (hMembers : MembersSound fuel) : MembersSound (fuel + 1) := by
  intro room isFirst draft text record rest h
  rcases membersAt_cases (hChildren room) h with ⟨hFinish, hClose⟩ |
    ⟨quoted, named, content, field, next, behind, hNext, hName, hColon, hContent, hAdd, hMore⟩
  · obtain ⟨blanks, hBlanks, hText⟩ := (closing_eq_ok_iff (by decide)).mp hClose
    exact ⟨[], blanks, completes_nil_iff.mpr hFinish, items_nil_iff.mpr hBlanks, hText⟩
  · obtain ⟨lead, hLead, rfl⟩ := nextField_eq_some_iff.mp hNext
    obtain ⟨written, hWritten, hText⟩ :=
      fieldText_iff.mpr ⟨named, content, hName, hColon, hContent⟩
    obtain ⟨fields, more, hFields, hItems, rfl⟩ := hMembers _ _ _ _ _ _ hMore
    refine ⟨field :: fields, lead ++ (written ++ more),
      completes_cons_iff.mpr ⟨next, hAdd, hFields⟩,
      items_cons_iff.mpr ⟨lead, written, more, hLead, hWritten, hItems, rfl⟩, ?_⟩
    rw [hText]
    simp

/-- Children are an array of records. -/
theorem ChildrenSound.succ {fuel : Nat} (hItems : ItemsSound fuel) : ChildrenSound (fuel + 1) := by
  intro room text children rest h
  rw [childrenAt] at h
  split at h
  · rename_i inside hBracket
    split at h
    · cases h
    · rename_i room
      obtain ⟨inner, hInner, rfl⟩ := hItems _ _ _ _ _ h
      have hChildren : ChildrenText (room + 1) children ('[' :: (inner ++ [']'])) := by
        rw [ChildrenText]
        exact ⟨inner, rfl, hInner⟩
      exact begins_of_skipBlank hChildren (by rw [hBracket]; simp)
  · cases h

/-- One more record is put in front of those that are read behind it. -/
theorem ItemsSound.succ {fuel : Nat} (hRecords : RecordsSound fuel) (hItems : ItemsSound fuel) :
    ItemsSound (fuel + 1) := by
  intro room isFirst text records rest h
  rw [itemsAt] at h
  split at h
  · cases h
  · obtain ⟨behind, hClose, hEq⟩ := map_eq_ok_iff.mp h
    cases hEq
    obtain ⟨blanks, hBlanks, hText⟩ := (closing_eq_ok_iff (by decide)).mp hClose
    exact ⟨blanks, items_nil_iff.mpr hBlanks, hText⟩
  · rename_i item hNext
    split at h
    · cases h
    · rename_i record behind hRecord
      split at h
      · cases h
      · rename_i others after hOthers
        cases h
        obtain ⟨more, hMore, rfl⟩ := hItems _ _ _ _ _ hOthers
        exact items_of_nextItem hNext (hRecords _ _ _ _ hRecord) hMore

/-- Whatever the number of steps, what is read is what is written. -/
theorem sound (fuel : Nat) :
    RecordsSound fuel ∧ MembersSound fuel ∧ ChildrenSound fuel ∧ ItemsSound fuel := by
  induction fuel with
  | zero =>
    -- nothing is read in no steps
    refine ⟨?_, ?_, ?_, ?_⟩
    · intro room text record rest h
      rw [recordAt] at h
      cases h
    · intro room isFirst draft text record rest h
      rw [membersAt] at h
      cases h
    · intro room text children rest h
      rw [childrenAt] at h
      cases h
    · intro room isFirst text records rest h
      rw [itemsAt] at h
      cases h
  | succ fuel ih =>
    obtain ⟨hRecords, hMembers, hChildren, hItems⟩ := ih
    exact ⟨.succ hMembers hChildren, .succ hChildren hMembers, .succ hItems,
      .succ hRecords hItems⟩

/-- **Soundness of reading.** What is read as a record is a record of the grammar, with
    blanks in front of it, in which no more arrays and objects are open than there is room
    for. -/
theorem recordAt_eq_ok {fuel room : Nat} {text rest : List Char} {record : Record}
    (h : recordAt fuel room text = .ok (record, rest)) : Begins (RecordText room) record text rest :=
  (sound fuel).1 room text record rest h

end Outline.Json
