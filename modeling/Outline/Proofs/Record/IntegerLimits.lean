import Outline.Proofs.Record.Checking

/-!
# Integer entries at the limits of 64 bits

The text of an integer entry may be of any length. It is accepted exactly if the integer that it
denotes lies within 64 bits, where there is one more negative number than there are positive ones.
Every integer of 64 bits is denoted by its decimal form, which labels show.

- `Number.exists_toInt_eq_iff` — the integers of 64 bits
- `Entry.describes_integer_iff` — the texts of integer entries
- `Record.toNode_of_describes`, `Record.toNode_of_fails` — records by what their entry stands for
- `Record.toNode_integer_text` — the integer entries with a text that are accepted
-/

namespace Outline

/-! ## §1 Integers of 64 bits -/

namespace Number

/-- The integers of 64 bits are those between the limits. -/
theorem exists_toInt_eq_iff {n : Int} :
    (∃ value : Int64, value.toInt = n) ↔ -2 ^ 63 ≤ n ∧ n ≤ 2 ^ 63 - 1 := by
  have hMin : Int64.minValue.toInt = -2 ^ 63 := by decide
  have hMax : Int64.maxValue.toInt = 2 ^ 63 - 1 := by decide
  rw [← hMin, ← hMax]
  constructor
  · rintro ⟨value, rfl⟩
    exact ⟨value.minValue_le_toInt, value.toInt_le⟩
  · rintro ⟨hLow, hHigh⟩
    exact ⟨Int64.ofInt n, Int64.toInt_ofInt_of_le hLow (Int.lt_add_one_of_le hHigh)⟩

/-- The decimal form of an integer denotes it. -/
theorem signed_toString (n : Int) : Signed (Numeral 10) n (toString n).toList :=
  intOfDecimal?_eq_some_iff.mp (intOfDecimal?_toString n)

end Number

/-- Blanks around the decimal form of an integer do not matter. -/
theorem integerText_toString_padded (n : Int) {before after : String}
    (hBefore : Text.Blanks before.toList) (hAfter : Text.Blanks after.toList) :
    IntegerText n (before ++ toString n ++ after).toList := by
  rw [String.toList_append, String.toList_append, List.append_assoc]
  exact .padded hBefore (Number.signed_toString n) hAfter

/-! ## §2 Entries and records -/

namespace Entry

theorem notices_of_integer {entry : Entry} (h : Spells "integer" entry.kind) :
    entry.notices = [] := by
  unfold notices
  simp only [h.toLower_eq (by decide)]

/-- An integer entry with a text describes the integer that the text denotes. -/
theorem describes_integer_iff {kind text : String} (hKind : Spells "integer" kind)
    (name : Option String) {value : Int64} :
    (Entry.mk kind name (some (.text text))).Describes (.integer value) ↔
      IntegerText value.toInt text.toList := by
  constructor
  · intro h
    -- the value is a text, so only one of the two ways to describe an integer is left
    cases h with
    | integer _ hValue => cases hValue
    | numericText _ hValue hText =>
      cases hValue
      exact hText
  · intro hText
    exact .numericText hKind rfl hText

end Entry

namespace Record

theorem toNode_of_describes {entry : Entry} {kind : Kind} (h : entry.Describes kind)
    (children : List Record) :
    toNode ⟨entry, children⟩ = ⟨(toNodeEach children).value.map fun nodes => ⟨kind, nodes⟩,
      entry.notices ++ (toNodeEach children).notices⟩ := by
  rw [toNode, h.toKind_eq]

/-- Nothing below an entry that fails is looked at. -/
theorem toNode_of_fails {entry : Entry} {error : EntryError} (h : entry.Fails error)
    (children : List Record) : toNode ⟨entry, children⟩ = ⟨.error error, entry.notices⟩ := by
  rw [toNode, h.toKind_eq]

/-! ## §3 Integer entries with a text -/

/-- **Texts of integer entries.** An integer entry with a text is accepted exactly if the text,
    without the blanks at its ends, has an optional sign and one or more decimal digits that
    denote an integer of 64 bits, and then it stands for that integer. Otherwise it is refused,
    and the error has the text as it is. So the decimal form of an integer of 64 bits, with any
    blanks around it, stands for the same node as the integer itself, and the digits that the
    label of an integer shows are read as that integer. -/
theorem toNode_integer_text {kind : String} (hKind : Spells "integer" kind) (name : Option String)
    (children : List Record) :
    (∀ (text : String) (n : Int) (nodes : List Node),
      (∃ value : Int64, value.toInt = n ∧
        (toNode ⟨⟨kind, name, some (.text text)⟩, children⟩).value = .ok ⟨.integer value, nodes⟩) ↔
      (IntegerText n text.toList ∧ -2 ^ 63 ≤ n ∧ n ≤ 2 ^ 63 - 1) ∧
        (toNodeEach children).value = .ok nodes) ∧
    (∀ text : String, (¬ ∃ n : Int, IntegerText n text.toList ∧ -2 ^ 63 ≤ n ∧ n ≤ 2 ^ 63 - 1) →
      toNode ⟨⟨kind, name, some (.text text)⟩, children⟩ =
        ⟨.error (.invalidValue kind text), []⟩) ∧
    (∀ (value : Int64) (before after : String),
      Text.Blanks before.toList → Text.Blanks after.toList →
      toNode ⟨⟨kind, name, some (.text (before ++ toString value.toInt ++ after))⟩, children⟩ =
        toNode ⟨⟨kind, name, some (.int value)⟩, children⟩) ∧
    ∀ value : Int64, ∃ digits, (Kind.integer value).label = "Integer(" ++ digits ++ ")" ∧
      integerOfText? digits = some value := by
  have hNotices (value : RecordValue) : (Entry.mk kind name (some value)).notices = [] :=
    Entry.notices_of_integer hKind
  refine ⟨?_, ?_, ?_, ?_⟩
  · intro text n nodes
    constructor
    · rintro ⟨value, rfl, hNode⟩
      obtain ⟨made, below, hMade, hBelow, hSame⟩ := exists_of_toNode hNode
      cases hSame
      have hText := (Entry.describes_integer_iff hKind name).mp (Entry.toKind_eq_ok_iff.mp hMade)
      exact ⟨⟨hText, Number.exists_toInt_eq_iff.mp ⟨value, rfl⟩⟩, hBelow⟩
    · rintro ⟨⟨hText, hFits⟩, hBelow⟩
      -- the limits are those of 64 bits, so the integer is that of a value
      obtain ⟨value, rfl⟩ := Number.exists_toInt_eq_iff.mpr hFits
      refine ⟨value, rfl, ?_⟩
      rw [toNode_of_describes ((Entry.describes_integer_iff hKind name).mpr hText), hBelow]
      rfl
  · intro text hNone
    have hFails : (Entry.mk kind name (some (.text text))).Fails (.invalidValue kind text) := by
      refine .otherText hKind rfl ?_
      intro value hText
      exact hNone ⟨value.toInt, hText, Number.exists_toInt_eq_iff.mp ⟨value, rfl⟩⟩
    rw [toNode_of_fails hFails, hNotices]
  · intro value before after hBefore hAfter
    have hText := integerText_toString_padded value.toInt hBefore hAfter
    -- both entries describe the same kind, and nothing is reported about either of them
    rw [toNode_of_describes ((Entry.describes_integer_iff hKind name).mpr hText),
      toNode_of_describes (.integer hKind rfl), hNotices, hNotices]
  · intro value
    refine ⟨toString value.toInt, rfl, ?_⟩
    rw [integerOfText?_eq_some_iff]
    exact integerText_of_signed (Number.signed_toString value.toInt)

/-- The least integer of 64 bits is accepted, with zeros in front of it and blanks around it, but
    not the integer with the opposite sign. -/
theorem toNode_integer_text_least :
    let least := "\u00a0-009223372036854775808\n"
    let opposite := " +9223372036854775808"
    Spells "integer" "Integer" ∧
      (∃ value : Int64, value.toInt = -2 ^ 63 ∧
        (toNode ⟨⟨"Integer", none, some (.text least)⟩, []⟩).value = .ok ⟨.integer value, []⟩) ∧
      toNode ⟨⟨"Integer", none, some (.text opposite)⟩, []⟩ =
        ⟨.error (.invalidValue "Integer" opposite), []⟩ := by
  intro least opposite
  have hKind : Spells "integer" "Integer" := by decide
  have hDenotes {text : String} {n : Int} :
      IntegerText n text.toList ↔ Number.intOfDecimal? (Text.trim text.toList) = some n :=
    integerText_iff.trans Number.intOfDecimal?_eq_some_iff.symm
  obtain ⟨hAccepted, hRefused, -⟩ := toNode_integer_text hKind none []
  refine ⟨hKind, (hAccepted least _ []).mpr ⟨⟨?_, by decide⟩, rfl⟩, hRefused opposite ?_⟩
  · rw [hDenotes]
    decide +kernel
  · rintro ⟨n, hText, -, hHigh⟩
    have hValue : Number.intOfDecimal? (Text.trim opposite.toList) = some (2 ^ 63) := by
      decide +kernel
    rw [hDenotes, hValue] at hText
    cases hText
    exact absurd hHigh (by decide)

end Record

end Outline
