import Outline.Proofs.Record.IntegerText
import Outline.Proofs.Record.Reload
import Outline.Proofs.Tree.Rows
import Outline.Proofs.Tree.Traversal

/-!
# The first entry that describes no node

A record is turned into a tree node by node. Each entry is judged on its own, whatever stands
above or below it, and the first one in pre-order that describes no node decides the error. What
is reported on the way ends there too.

- `Spells` — words, whatever the case of their ASCII letters
- `Entry.Describes`, `Entry.Fails`, `Entry.report?` — what single entries stand for
- `Checked` — how the check of a list of entries ends
- `Record.toNode_first_error` — how the check of a record ends
-/

namespace Outline

/-! ## §1 Words -/

/-- A character is a letter or its ASCII capital. -/
def IsCaseOf (letter c : Char) : Prop :=
  c = letter ∨ c.isUpper = true ∧ letter.toNat = c.toNat + 32

/-- A text is a word but for the case of ASCII letters. -/
def Spells (word text : String) : Prop := List.Forall₂ IsCaseOf word.toList text.toList

instance (letter c : Char) : Decidable (IsCaseOf letter c) :=
  inferInstanceAs (Decidable (_ ∨ _))

instance (word text : String) : Decidable (Spells word text) :=
  inferInstanceAs (Decidable (List.Forall₂ _ _ _))

/-- The words for the kinds that written descriptions use. -/
def kindWords : List String := ["start", "add", "multiply", "identifier", "integer", "other"]

/-- Capitals are in front of their small letters by 32 places. -/
theorem toNat_toLower_of_isUpper {c : Char} (h : c.isUpper = true) :
    c.toLower.toNat = c.toNat + 32 := by
  have hRange : c.val ≥ 'A'.val ∧ c.val ≤ 'Z'.val := by simpa [Char.isUpper] using h
  have hLast : c.toNat ≤ 90 := UInt32.le_iff_toNat_le.mp hRange.2
  have hValid : (c.toNat + 32).isValidChar := .inl (by omega)
  rw [Char.toLower_eq_of_isUpper h, Char.toNat_ofNat, if_pos hValid]

theorem toLower_eq_iff {letter c : Char} (hLetter : letter.isUpper = false) :
    c.toLower = letter ↔ IsCaseOf letter c := by
  cases hUpper : c.isUpper with
  | false =>
    simp [IsCaseOf, Char.toLower_eq_of_not_isUpper, hUpper]
  | true =>
    have hNe : c ≠ letter := by
      rintro rfl
      rw [hUpper] at hLetter
      cases hLetter
    rw [← Char.toNat_inj, toNat_toLower_of_isUpper hUpper]
    simp [IsCaseOf, hUpper, hNe, eq_comm]

/-- A text is a word in small letters if its own small letters are. -/
theorem toLower_eq_iff_spells {word text : String} (hWord : ∀ c ∈ word.toList, c.isUpper = false) :
    text.toLower = word ↔ Spells word text := by
  have hMap : text.toLower = word ↔
      List.Forall₂ (fun letter c => letter = Char.toLower c) word.toList text.toList := by
    rw [← List.forall₂_map_right_iff, List.forall₂_eq_eq_eq, ← String.toList_inj, eq_comm,
      String.toLower, String.toList_map]
  have hEach : ∀ letters chars : List Char, (∀ c ∈ letters, c.isUpper = false) →
      (List.Forall₂ (fun letter c => letter = Char.toLower c) letters chars ↔
        List.Forall₂ IsCaseOf letters chars) := by
    intro letters
    induction letters with
    | nil => simp
    | cons letter rest ih =>
      intro chars hLetters
      rw [List.forall_mem_cons] at hLetters
      simp only [List.forall₂_cons_left_iff, ih _ hLetters.2, eq_comm (a := letter),
        toLower_eq_iff hLetters.1]
  rw [hMap, hEach _ _ hWord, Spells]

/-- Words of a list without capitals are matched by texts that spell them. -/
theorem toLower_eq_iff_of_small {words : List String} {word text : String}
    (hSmall : ∀ word ∈ words, word.toList.all (!·.isUpper) = true) (hWord : word ∈ words) :
    text.toLower = word ↔ Spells word text :=
  toLower_eq_iff_spells (by simpa using hSmall word hWord)

theorem toLower_eq_iff_of_mem {word text : String} (hWord : word ∈ kindWords) :
    text.toLower = word ↔ Spells word text :=
  toLower_eq_iff_of_small (by decide) hWord

theorem Spells.toLower_eq {word text : String} (h : Spells word text) (hWord : word ∈ kindWords) :
    text.toLower = word :=
  (toLower_eq_iff_of_mem hWord).mpr h

/-! ## §2 Entries -/

namespace Entry

/-- The kind that an entry describes. -/
inductive Describes (entry : Entry) : Kind → Prop where
  | start : Spells "start" entry.kind → Describes entry .start
  | add : Spells "add" entry.kind → Describes entry .add
  | multiply : Spells "multiply" entry.kind → Describes entry .multiply
  | identifier {name : String} : Spells "identifier" entry.kind →
      entry.value = some (.text name) → Describes entry (.identifier name)
  | integer {value : Int64} : Spells "integer" entry.kind →
      entry.value = some (.int value) → Describes entry (.integer value)
  | numericText {value : Int64} {text : String} : Spells "integer" entry.kind →
      entry.value = some (.text text) → IntegerText value.toInt text.toList →
      Describes entry (.integer value)
  | other {name : String} : Spells "other" entry.kind → entry.name = some name →
      Describes entry (.other name)
  /-- A kind that is none of the six words is kept as it is written. -/
  | unknown : (∀ word ∈ kindWords, ¬ Spells word entry.kind) → Describes entry (.other entry.kind)

/-- Why an entry describes no kind. The kind is quoted as it is written. -/
inductive Fails (entry : Entry) : EntryError → Prop where
  | noIdentifier : Spells "identifier" entry.kind → entry.value = none →
      Fails entry (.missingValue entry.kind)
  | integerIdentifier {value : Int64} : Spells "identifier" entry.kind →
      entry.value = some (.int value) →
      Fails entry (.invalidValue entry.kind (toString value.toInt))
  | noInteger : Spells "integer" entry.kind → entry.value = none →
      Fails entry (.missingValue entry.kind)
  | otherText {text : String} : Spells "integer" entry.kind → entry.value = some (.text text) →
      (∀ value : Int64, ¬ IntegerText value.toInt text.toList) →
      Fails entry (.invalidValue entry.kind text)
  | noName : Spells "other" entry.kind → entry.name = none → Fails entry (.missingName entry.kind)

/-- What is reported about an entry: parts of it that have no use. -/
def report? (entry : Entry) : Option Notice :=
  if Spells "other" entry.kind then
    if entry.value.isSome then some (.ignoredValue entry.kind) else none
  else if (∀ word ∈ kindWords, ¬ Spells word entry.kind) ∧
      (entry.value.isSome ∨ entry.name.isSome) then
    some (.ignoredValueAndName entry.kind)
  else none

/-- An entry describes a kind or fails, as it is read. -/
theorem toKind_cases (entry : Entry) :
    (∃ kind, entry.toKind = .ok kind ∧ entry.Describes kind) ∨
      ∃ error, entry.toKind = .error error ∧ entry.Fails error := by
  have hSpells {word : String} (h : entry.kind.toLower = word) (hWord : word ∈ kindWords) :
      Spells word entry.kind := (toLower_eq_iff_of_mem hWord).mp h
  fun_cases toKind entry with
  | case1 h => exact .inl ⟨_, rfl, .start (hSpells h (by decide))⟩
  | case2 h => exact .inl ⟨_, rfl, .add (hSpells h (by decide))⟩
  | case3 h => exact .inl ⟨_, rfl, .multiply (hSpells h (by decide))⟩
  | case4 h hValue => exact .inr ⟨_, rfl, .noIdentifier (hSpells h (by decide)) hValue⟩
  | case5 h name hValue => exact .inl ⟨_, rfl, .identifier (hSpells h (by decide)) hValue⟩
  | case6 h value hValue =>
    exact .inr ⟨_, rfl, .integerIdentifier (hSpells h (by decide)) hValue⟩
  | case7 h hValue => exact .inr ⟨_, rfl, .noInteger (hSpells h (by decide)) hValue⟩
  | case8 h value hValue => exact .inl ⟨_, rfl, .integer (hSpells h (by decide)) hValue⟩
  | case9 h text hValue value hText =>
    exact .inl ⟨_, rfl, .numericText (hSpells h (by decide)) hValue
      (integerOfText?_eq_some_iff.mp hText)⟩
  | case10 h text hValue hNone =>
    refine .inr ⟨_, rfl, .otherText (hSpells h (by decide)) hValue ?_⟩
    intro value hText
    rw [integerOfText?_eq_some_iff.mpr hText] at hNone
    cases hNone
  | case11 h name hName => exact .inl ⟨_, rfl, .other (hSpells h (by decide)) hName⟩
  | case12 h hName => exact .inr ⟨_, rfl, .noName (hSpells h (by decide)) hName⟩
  | case13 hStart hAdd hMultiply hIdentifier hInteger hOther =>
    refine .inl ⟨_, rfl, .unknown ?_⟩
    intro word hWord hSpelled
    have hLower := hSpelled.toLower_eq hWord
    simp only [kindWords, List.mem_cons, List.not_mem_nil, or_false] at hWord
    rcases hWord with rfl | rfl | rfl | rfl | rfl | rfl <;> contradiction

/-- An entry is read as the kind that it describes. -/
theorem Describes.toKind_eq {entry : Entry} {kind : Kind} (h : entry.Describes kind) :
    entry.toKind = .ok kind := by
  unfold toKind
  cases h with
  | start h => simp only [h.toLower_eq (by decide)]
  | add h => simp only [h.toLower_eq (by decide)]
  | multiply h => simp only [h.toLower_eq (by decide)]
  | identifier h hValue => simp only [h.toLower_eq (by decide), hValue]
  | integer h hValue => simp only [h.toLower_eq (by decide), hValue]
  | numericText h hValue hText =>
    simp only [h.toLower_eq (by decide), hValue, integerOfText?_eq_some_iff.mpr hText]
  | other h hName => simp only [h.toLower_eq (by decide), hName]
  | unknown h =>
    have hNot {word : String} (hSame : entry.kind.toLower = word) (hWord : word ∈ kindWords) :
        False := h word hWord ((toLower_eq_iff_of_mem hWord).mp hSame)
    split
    all_goals first | rfl | exact (hNot ‹_› (by decide)).elim

/-- An entry that fails is refused with its error. -/
theorem Fails.toKind_eq {entry : Entry} {error : EntryError} (h : entry.Fails error) :
    entry.toKind = .error error := by
  unfold toKind
  cases h with
  | noIdentifier h hValue => simp only [h.toLower_eq (by decide), hValue]
  | integerIdentifier h hValue => simp only [h.toLower_eq (by decide), hValue, RecordValue.toText]
  | noInteger h hValue => simp only [h.toLower_eq (by decide), hValue]
  | otherText h hValue hText =>
    have hNone : integerOfText? _ = none :=
      Option.eq_none_iff_forall_ne_some.mpr fun value hSome =>
        hText value (integerOfText?_eq_some_iff.mp hSome)
    simp only [h.toLower_eq (by decide), hValue, hNone]
  | noName h hName => simp only [h.toLower_eq (by decide), hName]

theorem toKind_eq_ok_iff {entry : Entry} {kind : Kind} :
    entry.toKind = .ok kind ↔ entry.Describes kind := by
  refine ⟨fun h => ?_, Describes.toKind_eq⟩
  rcases entry.toKind_cases with ⟨found, hFound, hDescribes⟩ | ⟨error, hError, -⟩
  · rw [hFound] at h
    cases h
    exact hDescribes
  · rw [hError] at h
    cases h

/-- What is reported about an entry, in the words of the report. -/
theorem notices_eq (entry : Entry) : entry.notices = entry.report?.toList := by
  have hSpells {word : String} (hWord : word ∈ kindWords) :
      Spells word entry.kind ↔ entry.kind.toLower = word := (toLower_eq_iff_of_mem hWord).symm
  have hUnknown : (∀ word ∈ kindWords, ¬ Spells word entry.kind) ↔
      entry.kind.toLower ∉ kindWords := by
    constructor
    · intro h hMem
      exact h _ hMem ((hSpells hMem).mpr rfl)
    · intro h word hWord hSpelled
      rw [(hSpells hWord).mp hSpelled] at h
      exact h hWord
  simp only [report?, hUnknown, hSpells (show "other" ∈ kindWords by decide)]
  unfold notices
  split
  case h_6 h =>
    rw [if_pos h]
    split <;> rfl
  case h_7 hStart hAdd hMultiply hIdentifier hInteger hOther =>
    have hNone : entry.kind.toLower ∉ kindWords := by
      simp only [kindWords, List.mem_cons, List.not_mem_nil, or_false, not_or]
      exact ⟨hStart, hAdd, hMultiply, hIdentifier, hInteger, hOther⟩
    rw [if_neg hOther]
    simp only [hNone, not_false_eq_true, true_and, Bool.or_eq_true]
    split <;> rfl
  -- nothing is reported about the five other words
  all_goals
    rename_i h
    simp [h, kindWords]

theorem level_of_report? {entry : Entry} {notice : Notice} (h : entry.report? = some notice) :
    notice.level = .debug := by
  unfold report? at h
  split at h
  · obtain ⟨-, hNotice⟩ := Option.ite_none_right_eq_some.mp h
    cases hNotice
    rfl
  · obtain ⟨-, hNotice⟩ := Option.ite_none_right_eq_some.mp h
    cases hNotice
    rfl

/-- An entry that describes a kind does not fail. -/
theorem Describes.not_fails {entry : Entry} {kind : Kind} {error : EntryError}
    (h : entry.Describes kind) : ¬ entry.Fails error := by
  intro hFails
  have hSame := h.toKind_eq.symm.trans hFails.toKind_eq
  cases hSame

/-- Every error quotes the kind of the entry as it is written. -/
theorem Fails.quotes_kind {entry : Entry} {error : EntryError} (h : entry.Fails error) :
    ∃ before after, error.message = before ++ "`" ++ entry.kind ++ "`" ++ after := by
  have hValue : "` node requires a value" = "`" ++ " node requires a value" := by decide
  have hName : "` node requires a name" = "`" ++ " node requires a name" := by decide
  have hFor : "` for `" = "` for " ++ "`" := by decide
  have hNode : "` node" = "`" ++ " node" := by decide
  -- both kinds of an invalid value are quoted alike
  have hInvalid (value : String) : (EntryError.invalidValue entry.kind value).message =
      "invalid value `" ++ value ++ "` for " ++ "`" ++ entry.kind ++ "`" ++ " node" := by
    show "invalid value `" ++ value ++ "` for `" ++ entry.kind ++ "` node" = _
    simp only [hFor, hNode, String.append_assoc]
  cases h with
  | noIdentifier | noInteger =>
    refine ⟨"", " node requires a value", ?_⟩
    show "`" ++ entry.kind ++ "` node requires a value" = _
    rw [hValue, String.empty_append, ← String.append_assoc]
  | noName =>
    refine ⟨"", " node requires a name", ?_⟩
    show "`" ++ entry.kind ++ "` node requires a name" = _
    rw [hName, String.empty_append, ← String.append_assoc]
  | integerIdentifier | otherText => exact ⟨_, _, hInvalid _⟩

end Entry

/-! ## §3 Lists of entries -/

/-- How the check of entries in turn ends: all of them describe kinds, or there is a first one
    that fails. All that is reported is about the entries up to there. -/
inductive Checked {α : Type} : List Entry → Logged (Except EntryError α) → Prop where
  | passed {entries : List Entry} {made : α} :
      (∀ entry ∈ entries, ∃ kind, entry.Describes kind) →
      Checked entries ⟨.ok made, entries.filterMap Entry.report?⟩
  | failed {before after : List Entry} {entry : Entry} {error : EntryError} :
      (∀ earlier ∈ before, ∃ kind, earlier.Describes kind) → entry.Fails error →
      Checked (before ++ entry :: after) ⟨.error error, (before ++ [entry]).filterMap Entry.report?⟩

namespace Checked

variable {α β : Type} {before entries : List Entry}

/-- Entries that describe kinds may come before those that are checked. -/
theorem after (hBefore : ∀ entry ∈ before, ∃ kind, entry.Describes kind)
    {result : Logged (Except EntryError α)} (h : Checked entries result) (f : α → β) :
    Checked (before ++ entries)
      ⟨result.value.map f, before.filterMap Entry.report? ++ result.notices⟩ := by
  cases h with
  | passed hEntries =>
    rw [← List.filterMap_append]
    exact .passed (List.forall_mem_append.mpr ⟨hBefore, hEntries⟩)
  | failed hEarlier hFails =>
    rw [← List.filterMap_append, ← List.append_assoc, ← List.append_assoc]
    exact .failed (List.forall_mem_append.mpr ⟨hBefore, hEarlier⟩) hFails

variable {result : Logged (Except EntryError α)}

/-- A check that succeeds has looked at all entries. -/
theorem of_ok (h : Checked entries result) {made : α} (hOk : result.value = .ok made) :
    (∀ entry ∈ entries, ∃ kind, entry.Describes kind) ∧
      result.notices = entries.filterMap Entry.report? := by
  cases h with
  | passed hEntries => exact ⟨hEntries, rfl⟩
  | failed => cases hOk

/-- A check that fails has come to a first entry that fails. -/
theorem of_error (h : Checked entries result) {error : EntryError}
    (hError : result.value = .error error) :
    ∃ before entry after, entries = before ++ entry :: after ∧
      (∀ earlier ∈ before, ∃ kind, earlier.Describes kind) ∧ entry.Fails error := by
  cases h with
  | passed => cases hError
  | failed hEarlier hFails =>
    cases hError
    exact ⟨_, _, _, rfl, hEarlier, hFails⟩

/-- All that a check reports is about entries. -/
theorem exists_report? (h : Checked entries result) :
    ∀ notice ∈ result.notices, ∃ entry ∈ entries, entry.report? = some notice := by
  intro notice hNotice
  cases h with
  | passed => exact List.mem_filterMap.mp hNotice
  | failed =>
    obtain ⟨entry, hEntry, hReport⟩ := List.mem_filterMap.mp hNotice
    refine ⟨entry, ?_, hReport⟩
    rw [List.append_cons]
    exact List.mem_append_left _ hEntry

/-- All that a check reports is worth no more than a line for debugging. -/
theorem level_eq (h : Checked entries result) :
    ∀ notice ∈ result.notices, notice.level = .debug := by
  intro notice hNotice
  obtain ⟨entry, -, hReport⟩ := h.exists_report? notice hNotice
  exact Entry.level_of_report? hReport

/-- A check succeeds if no entry fails. -/
theorem exists_ok (h : Checked entries result)
    (hEntries : ∀ entry ∈ entries, ∃ kind, entry.Describes kind) :
    ∃ made, result.value = .ok made := by
  cases h with
  | passed => exact ⟨_, rfl⟩
  | failed _ hFails =>
    obtain ⟨kind, hKind⟩ := hEntries _ (List.mem_append_right _ (List.mem_cons_self ..))
    exact absurd hFails hKind.not_fails

/-- A list of entries has one place at most where the first one that fails stands. -/
theorem first_unique {before before' after after' : List Entry} {entry entry' : Entry}
    {error error' : EntryError} (h : before ++ entry :: after = before' ++ entry' :: after')
    (hBefore : ∀ earlier ∈ before, ∃ kind, earlier.Describes kind) (hFails : entry.Fails error)
    (hBefore' : ∀ earlier ∈ before', ∃ kind, earlier.Describes kind)
    (hFails' : entry'.Fails error') : before = before' ∧ entry = entry' := by
  induction before generalizing before' with
  | nil =>
    cases before' with
    | nil => exact ⟨rfl, (List.cons.inj h).1⟩
    | cons first rest =>
      obtain ⟨kind, hKind⟩ := hBefore' first (List.mem_cons_self ..)
      rw [← (List.cons.inj h).1] at hKind
      exact absurd hFails hKind.not_fails
  | cons first rest ih =>
    cases before' with
    | nil =>
      obtain ⟨kind, hKind⟩ := hBefore first (List.mem_cons_self ..)
      rw [(List.cons.inj h).1] at hKind
      exact absurd hFails' hKind.not_fails
    | cons first' rest' =>
      obtain ⟨rfl, hRest⟩ := List.cons.inj h
      rw [List.forall_mem_cons] at hBefore hBefore'
      obtain ⟨rfl, hEntry⟩ := ih hRest hBefore.2 hBefore'.2
      exact ⟨rfl, hEntry⟩

/-- The first entry that fails decides the error and is the last one that is reported about. -/
theorem of_first {after : List Entry} {entry : Entry} {error : EntryError}
    (h : Checked (before ++ entry :: after) result)
    (hBefore : ∀ earlier ∈ before, ∃ kind, earlier.Describes kind) (hFails : entry.Fails error) :
    result = ⟨.error error, (before ++ [entry]).filterMap Entry.report?⟩ := by
  generalize hEntries : before ++ entry :: after = entries at h
  cases h with
  | passed hAll =>
    obtain ⟨kind, hKind⟩ := hAll entry (by simp [← hEntries])
    exact absurd hFails hKind.not_fails
  | failed hEarlier hFound =>
    obtain ⟨rfl, rfl⟩ := first_unique hEntries hBefore hFails hEarlier hFound
    have hSame := hFails.toKind_eq.symm.trans hFound.toKind_eq
    cases hSame
    rfl

end Checked

/-! ## §4 Records -/

namespace Record

/-- The entries of a record in pre-order. -/
def entries (record : Record) : List Entry := record.preorder.map Tree.item

theorem entries_eq (entry : Entry) (children : List Record) :
    Record.entries ⟨entry, children⟩ = entry :: children.flatMap entries := by
  rw [entries, Tree.preorder_eq, List.map_cons, List.map_flatMap]
  rfl

theorem entries_eq_map_rows (record : Record) : record.entries = record.rows.map Prod.snd := by
  rw [entries, Tree.preorder, Tree.rows, List.map_map, List.map_map]
  rfl

/-- Turning a record into a tree checks its entries in pre-order. -/
theorem checked_toNode (record : Record) : Checked record.entries record.toNode := by
  induction record using Tree.induction with
  | node entry children ih =>
    -- the same for some of the children, from left to right
    have each : ∀ records : List Record, (∀ record ∈ records, record ∈ children) →
        Checked (records.flatMap entries) (toNodeEach records) := by
      intro records
      induction records with
      | nil =>
        intro _
        rw [toNodeEach]
        exact .passed (by simp)
      | cons first rest ihRest =>
        intro hMem
        rw [List.forall_mem_cons] at hMem
        have hFirst := ih first hMem.1
        have hRest := ihRest hMem.2
        rw [toNodeEach, List.flatMap_cons]
        generalize first.toNode = result at hFirst
        generalize first.entries = checked at hFirst
        cases hFirst with
        | passed hChecked => exact hRest.after hChecked _
        | failed hEarlier hFails =>
          -- nothing behind the entry that fails is looked at
          rw [List.append_assoc, List.cons_append]
          exact .failed hEarlier hFails
    have hReport : entry.notices = [entry].filterMap Entry.report? := by
      rw [entry.notices_eq]
      cases h : entry.report? <;> simp [h]
    rw [entries_eq, toNode, hReport]
    rcases entry.toKind_cases with ⟨kind, hKind, hDescribes⟩ | ⟨error, hError, hFails⟩
    · simp only [hKind]
      have hEntry : ∀ earlier ∈ [entry], ∃ kind, earlier.Describes kind := by
        simpa using ⟨kind, hDescribes⟩
      exact (each children fun _ h => h).after hEntry _
    · simp only [hError]
      rw [← List.nil_append (entry :: _)]
      exact .failed (by simp) hFails

/-- A tree has the shape of a record and the kinds that its entries describe, each at its own
    place. -/
def Matches (record : Record) (node : Node) : Prop :=
  List.Forall₂ (fun row made => row.1 = made.1 ∧ row.2.Describes made.2) record.rows node.rows

theorem map_toKind_eq_iff {record : Record} {node : Node} :
    record.map Entry.toKind = node.map .ok ↔ record.Matches node := by
  rw [← Tree.rows_injective.eq_iff, Tree.rows_map, Tree.rows_map, ← List.forall₂_eq_eq_eq,
    List.forall₂_map_left_iff, List.forall₂_map_right_iff, Matches]
  simp only [Prod.mk.injEq, Entry.toKind_eq_ok_iff]

theorem Matches.describes {record : Record} {node : Node} (h : record.Matches node) :
    ∀ entry ∈ record.entries, ∃ kind, entry.Describes kind := by
  rw [entries_eq_map_rows, List.forall_mem_map]
  unfold Matches at h
  generalize record.rows = rows at h
  generalize node.rows = made at h
  induction h with
  | nil => simp
  | cons hRow _ ih =>
    rw [List.forall_mem_cons]
    exact ⟨⟨_, hRow.2⟩, ih⟩

/-- A record matches one tree at most. -/
theorem Matches.unique {record : Record} {node other : Node} (h : record.Matches node)
    (hOther : record.Matches other) : node = other := by
  have hOk : Function.Injective fun row : Nat × Kind =>
      (row.1, (Except.ok row.2 : Except EntryError Kind)) := by
    rintro ⟨depth, kind⟩ ⟨depth', kind'⟩ hSame
    cases hSame
    rfl
  have hSame := (map_toKind_eq_iff.mpr h).symm.trans (map_toKind_eq_iff.mpr hOther)
  have hRows := congrArg Tree.rows hSame
  rw [Tree.rows_map, Tree.rows_map] at hRows
  exact Tree.rows_injective (List.map_injective_iff.mpr hOk hRows)

/-- A record is turned into just the tree that matches it. -/
theorem toNode_eq_ok_iff {record : Record} {node : Node} :
    record.toNode.value = .ok node ↔ record.Matches node := by
  constructor
  · intro h
    exact map_toKind_eq_iff.mp (map_toKind_of_toNode h)
  · intro h
    obtain ⟨made, hMade⟩ := record.checked_toNode.exists_ok h.describes
    rw [hMade, h.unique (map_toKind_eq_iff.mp (map_toKind_of_toNode hMade))]

/-- **The first entry that describes no node decides.** A record is turned into a tree exactly
    if each of its entries describes a kind; the tree has the shape of the record, and each kind
    is that of the entry at its place. Otherwise the error is that of the first entry in
    pre-order that fails, and it quotes the kind of that entry as it is written. What is reported
    about parts without a use concerns just the entries up to there, in their order. -/
theorem toNode_first_error (record : Record) :
    let result := record.toNode
    ((∃ node, result.value = .ok node) ↔ ∀ entry ∈ record.entries, ∃ kind, entry.Describes kind) ∧
    (∀ node, result.value = .ok node ↔ record.Matches node) ∧
    (∀ error, result.value = .error error ↔ ∃ before entry after,
      record.entries = before ++ entry :: after ∧
      (∀ earlier ∈ before, ∃ kind, earlier.Describes kind) ∧ entry.Fails error) ∧
    (∀ node, result.value = .ok node → result.notices = record.entries.filterMap Entry.report?) ∧
    (∀ before entry after error, record.entries = before ++ entry :: after →
      (∀ earlier ∈ before, ∃ kind, earlier.Describes kind) → entry.Fails error →
      result.notices = (before ++ [entry]).filterMap Entry.report?) ∧
    (∀ notice ∈ result.notices, notice.level = .debug) ∧
    (∀ (entry : Entry) error, entry.Fails error → ∃ first last,
      error.message = first ++ "`" ++ entry.kind ++ "`" ++ last) := by
  intro result
  have hChecked : Checked record.entries result := record.checked_toNode
  have hFirst {before after : List Entry} {entry : Entry} {error : EntryError}
      (hEntries : record.entries = before ++ entry :: after)
      (hBefore : ∀ earlier ∈ before, ∃ kind, earlier.Describes kind)
      (hFails : entry.Fails error) :
      result = ⟨.error error, (before ++ [entry]).filterMap Entry.report?⟩ := by
    rw [hEntries] at hChecked
    exact hChecked.of_first hBefore hFails
  refine ⟨⟨?_, hChecked.exists_ok⟩, fun _ => toNode_eq_ok_iff, fun error => ⟨hChecked.of_error, ?_⟩,
    fun _ hOk => (hChecked.of_ok hOk).2, ?_, hChecked.level_eq, fun _ _ => Entry.Fails.quotes_kind⟩
  · rintro ⟨node, hOk⟩
    exact (hChecked.of_ok hOk).1
  · rintro ⟨before, entry, after, hEntries, hBefore, hFails⟩
    rw [hFirst hEntries hBefore hFails]
  · intro before entry after error hEntries hBefore hFails
    rw [hFirst hEntries hBefore hFails]

/-- The second child is the first entry that fails. The child before it has a kind of its own and
    is reported, and the one behind it, which fails too, is not looked at. -/
theorem toNode_first_error_second_child :
    let record : Record := ⟨{ kind := "Start" }, [⟨{ kind := "call", value := some (.int 1) }, []⟩,
      ⟨{ kind := "INTEGER", value := some (.text " 7x") }, []⟩, ⟨{ kind := "other" }, []⟩]⟩
    record.toNode.value = .error (.invalidValue "INTEGER" " 7x") ∧
      record.toNode.notices = [.ignoredValueAndName "call"] := by
  intro record
  let before : List Entry := [{ kind := "Start" }, { kind := "call", value := some (.int 1) }]
  let failing : Entry := { kind := "INTEGER", value := some (.text " 7x") }
  have hEntries : record.entries = before ++ failing :: [{ kind := "other" }] := by decide +kernel
  have hBefore : ∀ earlier ∈ before, ∃ kind, earlier.Describes kind := by
    rw [List.forall_mem_cons, List.forall_mem_singleton]
    exact ⟨⟨_, .start (by decide)⟩, ⟨_, .unknown (by decide)⟩⟩
  have hFails : failing.Fails (.invalidValue "INTEGER" " 7x") := by
    have hNone : integerOfText? " 7x" = none := by decide +kernel
    refine .otherText (by decide) rfl ?_
    intro value hText
    rw [integerOfText?_eq_some_iff.mpr hText] at hNone
    cases hNone
  obtain ⟨-, -, hError, -, hNotices, -⟩ := toNode_first_error record
  refine ⟨(hError _).mpr ⟨_, _, _, hEntries, hBefore, hFails⟩, ?_⟩
  rw [hNotices _ _ _ _ hEntries hBefore hFails]
  decide +kernel

end Record

end Outline
