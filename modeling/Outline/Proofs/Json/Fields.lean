import Outline.Proofs.Json.Scalar

/-!
# Lists and fields

How the readers go from one field or item to the next, and what a draft of a record still
lacks while its fields are read.

- `nextField_eq_some_iff`, `nextItem_eq_some` — what leads to the next field or item
- `Completes` — the fields that are still to come complete a draft to a record
- `fieldText_iff` — a field is a name, a colon and what is written for it
-/

namespace Outline.Json

/-! ## §1 From one item to the next -/

/-- What stands in front of an item: blanks, and between them a comma if it is not the first
    one. -/
def Lead (isFirst : Bool) (lead : List Char) : Prop :=
  if isFirst then Blanks lead
  else ∃ before after, Blanks before ∧ Blanks after ∧ lead = before ++ ',' :: after

/-- The items of a list from the first or from a later one on. -/
def Items {α : Type} (Item : α → List Char → Prop) (isFirst : Bool) :
    List α → List Char → Prop :=
  if isFirst then Listing Item else Tail Item

theorem items_nil_iff {α : Type} {Item : α → List Char → Prop} {isFirst : Bool}
    {inner : List Char} : Items Item isFirst [] inner ↔ Blanks inner := by
  cases isFirst with
  | true =>
    constructor
    · rintro ⟨hBlanks⟩
      exact hBlanks
    · exact .empty
  | false =>
    constructor
    · rintro ⟨hBlanks⟩
      exact hBlanks
    · exact .done

/-- More items are written as what leads to the next one, the item and those after it. -/
theorem items_cons_iff {α : Type} {Item : α → List Char → Prop} {isFirst : Bool} {first : α}
    {others : List α} {inner : List Char} :
    Items Item isFirst (first :: others) inner ↔
      ∃ lead item more, Lead isFirst lead ∧ Item first item ∧ Items Item false others more ∧
        inner = lead ++ (item ++ more) := by
  cases isFirst with
  | true =>
    constructor
    · intro h
      cases h with
      | items hBefore hItem hRest => exact ⟨_, _, _, hBefore, hItem, hRest, rfl⟩
    · rintro ⟨lead, item, more, hLead, hItem, hMore, rfl⟩
      exact Listing.items hLead hItem hMore
  | false =>
    constructor
    · intro h
      cases h with
      | next hBefore hAfter hItem hRest =>
        exact ⟨_, _, _, ⟨_, _, hBefore, hAfter, rfl⟩, hItem, hRest, by simp⟩
    · rintro ⟨_, item, more, ⟨before, after, hBefore, hAfter, rfl⟩, hItem, hMore, rfl⟩
      rw [List.append_assoc, List.cons_append]
      exact Tail.next hBefore hAfter hItem hMore

theorem Lead.append {isFirst : Bool} {lead blanks : List Char} (hLead : Lead isFirst lead)
    (hBlanks : Blanks blanks) : Lead isFirst (lead ++ blanks) := by
  cases isFirst with
  | true => exact Blanks.append hLead hBlanks
  | false =>
    obtain ⟨before, after, hBefore, hAfter, rfl⟩ := hLead
    exact ⟨before, after ++ blanks, hBefore, hAfter.append hBlanks, by simp⟩

theorem closing_eq_ok_iff {mark : Char} {text rest : List Char} (hSolid : isBlank mark = false) :
    closing mark text = .ok rest ↔ ∃ blanks, Blanks blanks ∧ text = blanks ++ mark :: rest := by
  rw [← skipBlank_eq_cons_iff hSolid, closing]
  split
  · rename_i c more h
    by_cases hMark : c = mark
    · simp only [hMark, if_true, h, Except.ok.injEq, List.cons.injEq, true_and]
    · simp only [hMark, if_false, h, List.cons.injEq, false_and, reduceCtorEq]
  · rename_i h
    simp only [h, reduceCtorEq]

theorem nextField_eq_none_iff {isFirst : Bool} {text : List Char} :
    nextField isFirst text = .ok none ↔
      ∃ blanks rest, Blanks blanks ∧ text = blanks ++ '}' :: rest := by
  constructor
  · intro h
    unfold nextField at h
    split at h
    · rename_i rest hClose
      obtain ⟨blanks, hBlanks, hText⟩ := (skipBlank_eq_cons_iff (by decide)).mp hClose
      exact ⟨blanks, rest, hBlanks, hText⟩
    -- a comma and a quote lead to a field or to an error, and all else to an error
    · split at h
      · cases h
      · split at h <;> cases h
    · split at h <;> cases h
    · cases h
  · rintro ⟨blanks, rest, hBlanks, rfl⟩
    simp only [nextField, skipBlank_append_cons (c := '}') hBlanks (by decide)]

/-- The next field begins with the quote of its name, behind what leads to it. -/
theorem nextField_eq_some_iff {isFirst : Bool} {text quoted : List Char} :
    nextField isFirst text = .ok (some quoted) ↔
      ∃ lead, Lead isFirst lead ∧ text = lead ++ '"' :: quoted := by
  constructor
  · intro h
    unfold nextField at h
    split at h
    · cases h
    · -- a comma stands in front of all fields but the first
      rename_i rest hComma
      split at h
      · cases h
      · rename_i hLater
        split at h
        · rename_i hQuote
          cases h
          obtain ⟨before, hBefore, rfl⟩ := (skipBlank_eq_cons_iff (by decide)).mp hComma
          obtain ⟨after, hAfter, rfl⟩ := (skipBlank_eq_cons_iff (by decide)).mp hQuote
          refine ⟨before ++ ',' :: after, ?_, by simp⟩
          rw [Lead, if_neg hLater]
          exact ⟨before, after, hBefore, hAfter, rfl⟩
        · cases h
    · rename_i hQuote
      split at h
      · rename_i hFirst
        cases h
        obtain ⟨blanks, hBlanks, rfl⟩ := (skipBlank_eq_cons_iff (by decide)).mp hQuote
        refine ⟨blanks, ?_, rfl⟩
        rw [Lead, if_pos hFirst]
        exact hBlanks
      · cases h
    · cases h
  · rintro ⟨lead, hLead, rfl⟩
    cases isFirst with
    | true =>
      have hBlanks : Blanks lead := hLead
      simp only [nextField, skipBlank_append_cons (c := '"') hBlanks (by decide), if_true]
    | false =>
      obtain ⟨before, after, hBefore, hAfter, rfl⟩ := hLead
      rw [List.append_assoc, List.cons_append]
      simp only [nextField, skipBlank_append_cons (c := ',') hBefore (by decide),
        skipBlank_append_cons (c := '"') hAfter (by decide), Bool.false_eq_true, if_false]

theorem nextItem_eq_none_iff {isFirst : Bool} {text : List Char} :
    nextItem isFirst text = .ok none ↔
      ∃ blanks rest, Blanks blanks ∧ text = blanks ++ ']' :: rest := by
  constructor
  · intro h
    unfold nextItem at h
    split at h
    · rename_i rest hClose
      obtain ⟨blanks, hBlanks, hText⟩ := (skipBlank_eq_cons_iff (by decide)).mp hClose
      exact ⟨blanks, rest, hBlanks, hText⟩
    · cases h
    · split at h
      · cases h
      · split at h
        · split at h <;> cases h
        · cases h
  · rintro ⟨blanks, rest, hBlanks, rfl⟩
    simp only [nextItem, skipBlank_append_cons (c := ']') hBlanks (by decide)]

/-- The next item stands behind what leads to it. -/
theorem nextItem_eq_some {isFirst : Bool} {text item : List Char}
    (h : nextItem isFirst text = .ok (some item)) :
    ∃ lead, Lead isFirst lead ∧ text = lead ++ item := by
  unfold nextItem at h
  split at h
  · cases h
  · cases h
  · rename_i c rest _ hNext
    obtain ⟨before, hBefore, hText⟩ := exists_blanks_append_skipBlank text
    rw [hNext] at hText
    split at h
    · rename_i hFirst
      cases h
      refine ⟨before, ?_, hText⟩
      rw [Lead, if_pos hFirst]
      exact hBefore
    · rename_i hLater
      split at h
      · -- the blanks on both sides of the comma lead to the item
        rename_i hComma
        obtain ⟨after, hAfter, hRest⟩ := exists_blanks_append_skipBlank rest
        have hLead : Lead isFirst (before ++ ',' :: after) := by
          rw [Lead, if_neg hLater]
          exact ⟨before, after, hBefore, hAfter, rfl⟩
        split at h
        · cases h
        · cases h
        · cases h
          refine ⟨_, hLead, ?_⟩
          rw [hText, hComma, List.append_assoc, List.cons_append, ← hRest]
      · cases h

/-- What leads to a solid item leads to the next item. -/
theorem nextItem_append {isFirst : Bool} {lead item : List Char} (hLead : Lead isFirst lead)
    (hSolid : Solid item) : nextItem isFirst (lead ++ item) = .ok (some item) := by
  obtain @⟨c, more, hBlank, hMark⟩ := hSolid
  simp only [List.mem_cons, List.not_mem_nil, or_false, not_or] at hMark
  cases isFirst with
  | true =>
    have hBlanks : Blanks lead := hLead
    unfold nextItem
    rw [skipBlank_append_cons hBlanks hBlank]
    -- a solid item is neither the end of the list nor the end of the text
    split
    · rename_i hClose
      cases hClose
      exact absurd rfl hMark.1
    · rename_i hEnd
      cases hEnd
    · rename_i hNext
      cases hNext
      rfl
  | false =>
    obtain ⟨before, after, hBefore, hAfter, rfl⟩ := hLead
    rw [List.append_assoc, List.cons_append]
    unfold nextItem
    rw [skipBlank_append_cons (c := ',') hBefore (by decide)]
    split
    · rename_i hClose
      cases hClose
    · rename_i hEnd
      cases hEnd
    · rename_i hComma
      cases hComma
      rw [skipBlank_append_cons hAfter hBlank, if_neg (by decide), if_pos rfl]
      split
      · rename_i hClose
        cases hClose
        exact absurd rfl hMark.1
      · rename_i hEnd
        cases hEnd
      · rfl

/-- An item that is found and read stands in front of the items that are read behind it. -/
theorem items_of_nextItem {α : Type} {Item : α → List Char → Prop} {isFirst : Bool} {first : α}
    {others : List α} {text item more rest : List Char}
    (hNext : nextItem isFirst text = .ok (some item)) (hItem : Begins Item first item (more ++ rest))
    (hMore : Items Item false others more) :
    ∃ inner, Items Item isFirst (first :: others) inner ∧ text = inner ++ rest := by
  obtain ⟨lead, hLead, rfl⟩ := nextItem_eq_some hNext
  obtain ⟨blanks, written, hBlanks, hWritten, rfl⟩ := hItem
  exact ⟨_, items_cons_iff.mpr ⟨_, _, _, hLead.append hBlanks, hWritten, hMore, rfl⟩, by simp⟩

/-! ## §2 Drafts -/

/-- The draft with one more field, if it does not have that field yet. -/
def add? (draft : Draft) : Field → Option Draft
  | .kind kind => if draft.kind.isSome then none else some { draft with kind := some kind }
  | .name name => if draft.name.isSome then none else some { draft with name := some name }
  | .value value => if draft.value.isSome then none else some { draft with value := some value }
  | .children children =>
    if draft.children.isSome then none else some { draft with children := some children }
  | .other _ => some draft

/-- The fields that are still to come complete a draft to a record: together they give the
    kind once and each of the others at most once. -/
structure Completes (draft : Draft) (fields : List Field) (record : Record) : Prop where
  kind : draft.kind.toList ++ fields.filterMap Field.kind? = [record.item.kind]
  name : AtMostOnce (draft.name.toList ++ fields.filterMap Field.name?) none record.item.name
  value : AtMostOnce (draft.value.toList ++ fields.filterMap Field.value?) none record.item.value
  children :
    AtMostOnce (draft.children.toList ++ fields.filterMap Field.children?) [] record.children

theorem completes_empty_iff {fields : List Field} {record : Record} :
    Completes {} fields record ↔ Gathers fields record := by
  constructor
  · intro h
    exact ⟨h.kind, h.name, h.value, h.children⟩
  · intro h
    exact ⟨h.kind, h.name, h.value, h.children⟩

/-- Without further fields, what is given at most once is given by the draft or is the
    default. -/
theorem atMostOnce_toList_iff {α : Type} {slot : Option α} {default value : α} :
    AtMostOnce (slot.toList ++ []) default value ↔ slot.getD default = value := by
  rw [AtMostOnce, List.append_nil]
  cases slot with
  | none => simp [eq_comm]
  | some given => simp

theorem not_atMostOnce {α : Type} {first second default value : α} {more : List α} :
    ¬AtMostOnce (first :: second :: more) default value := by
  rintro (h | ⟨h, -⟩) <;> cases h

/-- A draft that lacks nothing is finished as the record. -/
theorem completes_nil_iff {draft : Draft} {record : Record} :
    Completes draft [] record ↔ draft.finish = .ok record := by
  obtain ⟨kind, name, value, children⟩ := draft
  obtain ⟨⟨_, _, _⟩, _⟩ := record
  -- the kind is the only field without a default
  cases kind with
  | none =>
    constructor
    · rintro ⟨hKind, -, -, -⟩
      cases hKind
    · intro h
      cases h
  | some kind =>
    simp only [Draft.finish, Except.ok.injEq, Tree.mk.injEq, Entry.mk.injEq,
      ← atMostOnce_toList_iff]
    constructor
    · rintro ⟨hKind, hName, hValue, hChildren⟩
      cases hKind
      exact ⟨⟨rfl, hName, hValue⟩, hChildren⟩
    · rintro ⟨⟨rfl, hName, hValue⟩, hChildren⟩
      exact ⟨rfl, hName, hValue, hChildren⟩

/-- A field that can be added to a draft may as well have been in it. -/
theorem completes_cons_of_add? {draft next : Draft} {field : Field} {fields : List Field}
    {record : Record} (hAdd : add? draft field = some next) :
    Completes draft (field :: fields) record ↔ Completes next fields record := by
  obtain ⟨kind, name, value, children⟩ := draft
  cases field <;> [cases kind; cases name; cases value; cases children; skip] <;> cases hAdd
  -- in every case the first of the fields to come is now the last in the draft
  all_goals
    constructor
    · rintro ⟨hKind, hName, hValue, hChildren⟩
      exact ⟨hKind, hName, hValue, hChildren⟩
    · rintro ⟨hKind, hName, hValue, hChildren⟩
      exact ⟨hKind, hName, hValue, hChildren⟩

/-- A field that is in the draft already would be given twice. -/
theorem not_completes_cons {draft : Draft} {field : Field} {fields : List Field} {record : Record}
    (hAdd : add? draft field = none) : ¬Completes draft (field :: fields) record := by
  obtain ⟨kind, name, value, children⟩ := draft
  rintro ⟨hKind, hName, hValue, hChildren⟩
  cases field with
  | kind given =>
    cases kind with
    | none => cases hAdd
    | some earlier => cases hKind
  | name given =>
    cases name with
    | none => cases hAdd
    | some earlier => exact not_atMostOnce hName
  | value given =>
    cases value with
    | none => cases hAdd
    | some earlier => exact not_atMostOnce hValue
  | children given =>
    cases children with
    | none => cases hAdd
    | some earlier => exact not_atMostOnce hChildren
  | other key => cases hAdd

/-- A field completes a draft with others if it can be added to it and the others complete
    what comes of this. -/
theorem completes_cons_iff {draft : Draft} {field : Field} {fields : List Field}
    {record : Record} :
    Completes draft (field :: fields) record ↔
      ∃ next, add? draft field = some next ∧ Completes next fields record := by
  cases hAdd : add? draft field with
  | none =>
    constructor
    · intro h
      exact absurd h (not_completes_cons hAdd)
    · rintro ⟨_, ⟨⟩, -⟩
  | some next =>
    rw [completes_cons_of_add? hAdd]
    constructor
    · intro h
      exact ⟨next, rfl, h⟩
    · rintro ⟨_, ⟨⟩, h⟩
      exact h

/-! ## §3 Fields -/

/-- A field is read as a name, a colon and what is written for it. -/
theorem fieldText_iff {Children : List Record → List Char → Prop} {field : Field}
    {quoted behind : List Char} :
    (∃ written, FieldText Children field written ∧ '"' :: quoted = written ++ behind) ↔
      ∃ named content, Json.text quoted = .ok (field.key, named) ∧ colon named = .ok content ∧
        Begins (ContentText Children) field content behind := by
  constructor
  · rintro ⟨_, @⟨name, before, after, content, hName, hBefore, hAfter, hContent⟩, hText⟩
    refine ⟨before ++ ':' :: (after ++ (content ++ behind)), after ++ (content ++ behind), ?_, ?_,
      after, content, hAfter, hContent, rfl⟩
    · exact text_eq_ok_iff_stringText.mpr ⟨name, hName, by simpa using hText⟩
    · exact colon_eq_ok_iff.mpr ⟨before, hBefore, rfl⟩
  · rintro ⟨named, _, hRead, hColon, after, content, hAfter, hContent, rfl⟩
    obtain ⟨name, hName, hText⟩ := text_eq_ok_iff_stringText.mp hRead
    obtain ⟨before, hBefore, rfl⟩ := colon_eq_ok_iff.mp hColon
    exact ⟨_, .keyed hName hBefore hAfter hContent, by simp [hText]⟩

theorem FieldText.exists_cons {Children : List Record → List Char → Prop} {field : Field}
    {text : List Char} (h : FieldText Children field text) : ∃ more, text = '"' :: more := by
  cases h with
  | keyed hName hBefore hAfter hContent =>
    obtain ⟨more, rfl⟩ := hName.exists_cons
    exact ⟨_, rfl⟩

/-- What is written for a field is shorter than the field. -/
theorem length_content_lt {quoted named content : List Char} {key : String}
    (hName : Json.text quoted = .ok (key, named)) (hColon : colon named = .ok content) :
    content.length < quoted.length := by
  obtain ⟨inner, -, rfl⟩ := text_eq_ok_iff.mp hName
  obtain ⟨before, -, rfl⟩ := colon_eq_ok_iff.mp hColon
  simp only [List.length_append, List.length_cons]
  omega

end Outline.Json
