import Outline.Json.Reader
import Outline.Proofs.Json.Ignored

/-!
# Kinds, names and values

What the readers of the simple fields accept. A value is read in full before it is judged,
but of all that can be read only strings and integers of 64 bits are values of an entry, and
an integer is only read from the digits that it is printed with.

- `stringAt_eq_ok_iff`, `optionalString_eq_ok_iff` — strings
- `optionalValue_eq_ok`, `optionalValue_of_begins` — values
-/

namespace Outline.Json

/-! ## §1 The beginning of a text -/

/-- Behind blanks, a text begins with a form of a value and goes on with the rest. -/
def Begins {α : Type} (Text : α → List Char → Prop) (value : α) (text rest : List Char) : Prop :=
  ∃ blanks written, Blanks blanks ∧ Text value written ∧ text = blanks ++ (written ++ rest)

/-- A form that stands where the blanks end begins the text. -/
theorem begins_of_skipBlank {α : Type} {Text : α → List Char → Prop} {value : α}
    {text written rest : List Char} (hWritten : Text value written)
    (hText : skipBlank text = written ++ rest) : Begins Text value text rest := by
  obtain ⟨blanks, hBlanks, hSplit⟩ := exists_blanks_append_skipBlank text
  rw [hText] at hSplit
  exact ⟨blanks, written, hBlanks, hWritten, hSplit⟩

/-- A form that is solid stands where the blanks end. -/
theorem Begins.skipBlank {α : Type} {Text : α → List Char → Prop} {value : α}
    {text rest : List Char} (h : Begins Text value text rest)
    (hSolid : ∀ written, Text value written → Solid written) :
    ∃ written, Text value written ∧ skipBlank text = written ++ rest := by
  obtain ⟨blanks, written, hBlanks, hWritten, rfl⟩ := h
  refine ⟨written, hWritten, ?_⟩
  rw [skipBlank_append hBlanks]
  exact (hSolid written hWritten).skipBlank rest

/-! ## §2 Strings -/

theorem StringText.exists_cons {string : String} {text : List Char} (h : StringText string text) :
    ∃ more, text = '"' :: more := by
  cases h
  exact ⟨_, rfl⟩

theorem StringText.solid {string : String} {text : List Char} (h : StringText string text) :
    Solid text := by
  obtain ⟨more, rfl⟩ := h.exists_cons
  exact .cons (by decide) (by decide)

theorem stringAt_eq_ok_iff {text rest : List Char} {string : String} :
    stringAt text = .ok (string, rest) ↔ Begins StringText string text rest := by
  constructor
  · intro h
    unfold stringAt at h
    split at h
    · rename_i inner hQuote
      obtain ⟨written, hWritten, hText⟩ := text_eq_ok_iff_stringText.mp h
      exact begins_of_skipBlank hWritten (hQuote.trans hText)
    · cases h
  · intro h
    obtain ⟨written, hWritten, hText⟩ := h.skipBlank fun _ => StringText.solid
    obtain ⟨more, rfl⟩ := hWritten.exists_cons
    simp only [stringAt, hText, List.cons_append]
    exact text_eq_ok_iff_stringText.mpr ⟨_, hWritten, rfl⟩

/-- What may be absent is solid if what is present is. -/
theorem NullOr.solid {α : Type} {Text : α → List Char → Prop}
    (hText : ∀ value written, Text value written → Solid written) {value : Option α}
    {written : List Char} (h : NullOr Text value written) : Solid written := by
  cases value with
  | none =>
    obtain rfl : written = ['n', 'u', 'l', 'l'] := h
    exact .cons (by decide) (by decide)
  | some value => exact hText value written h

theorem optionalString_eq_ok_iff {text rest : List Char} {string : Option String} :
    optionalString text = .ok (string, rest) ↔ Begins (NullOr StringText) string text rest := by
  constructor
  · intro h
    unfold optionalString at h
    split at h
    · rename_i more hNull
      obtain ⟨behind, hWord, hRead⟩ := map_eq_ok_iff.mp h
      cases hRead
      obtain rfl := word_eq_ok_iff.mp hWord
      have hAbsent : NullOr StringText none ['n', 'u', 'l', 'l'] := rfl
      exact begins_of_skipBlank hAbsent hNull
    · obtain ⟨⟨present, behind⟩, hString, hRead⟩ := map_eq_ok_iff.mp h
      cases hRead
      obtain ⟨written, hWritten, hText⟩ :=
        (stringAt_eq_ok_iff.mp hString).skipBlank fun _ => StringText.solid
      rw [skipBlank_skipBlank] at hText
      have hPresent : NullOr StringText (some present) written := hWritten
      exact begins_of_skipBlank hPresent hText
  · intro h
    obtain ⟨written, hWritten, hText⟩ :=
      h.skipBlank fun _ => NullOr.solid fun _ _ => StringText.solid
    cases string with
    | none =>
      obtain rfl : written = ['n', 'u', 'l', 'l'] := hWritten
      simp only [optionalString, hText, List.cons_append]
      exact map_eq_ok_iff.mpr ⟨rest, word_eq_ok_iff.mpr rfl, rfl⟩
    | some present =>
      obtain ⟨more, rfl⟩ := StringText.exists_cons hWritten
      have hString : stringAt ('"' :: (more ++ rest)) = .ok (present, rest) :=
        stringAt_eq_ok_iff.mpr ⟨[], _, .nil, hWritten, rfl⟩
      simp only [optionalString, hText, List.cons_append]
      exact map_eq_ok_iff.mpr ⟨_, hString, rfl⟩

/-! ## §3 Integers -/

/-- Only a number that is written as an integer has an integer as its value, which is the
    value of its digits with the sign. There is no negative zero. -/
theorem Literal.amount_eq_integer {negative : Bool} {number : Literal} {n : Int}
    (h : number.amount negative = .ok (.integer n)) :
    number.isInteger = true ∧ n.natAbs = decimal number.whole ∧ (negative = true ↔ n < 0) := by
  simp only [Literal.amount] at h
  split at h
  · -- without a sign the value is the size, which is not negative
    rename_i hPositive
    simp only [Bool.and_eq_true, Bool.not_eq_true'] at hPositive
    cases h
    refine ⟨hPositive.1.1, Int.natAbs_natCast _, ?_⟩
    simp [hPositive.1.2]
  · split at h
    · -- with a sign the size is not zero, so the value is negative
      rename_i hNegative
      simp only [Bool.and_eq_true, decide_eq_true_eq] at hNegative
      cases h
      refine ⟨hNegative.1.1.1, by simp, ?_⟩
      simp [hNegative.1.1.2, hNegative.1.2]
    · split at h <;> cases h

/-- What is read as an integer is the text that it is printed as. -/
theorem amount_eq_integer {negative : Bool} {text rest : List Char} {n : Int}
    (h : amount negative text = .ok (.integer n, rest)) :
    (if negative then '-' :: text else text) = (toString n).toList ++ rest := by
  unfold amount at h
  split at h
  · cases h
  · rename_i number behind hLiteral
    obtain ⟨value, hAmount, hRead⟩ := map_eq_ok_iff.mp h
    cases hRead
    obtain ⟨hInteger, hSize, hSign⟩ := Literal.amount_eq_integer hAmount
    obtain ⟨written, -, rfl, hWhole⟩ := literal_eq_ok hLiteral
    obtain ⟨hText, rfl⟩ := hWhole hInteger
    rw [Number.toList_toString_int, hSize, toDigits_decimal hText]
    by_cases hNegative : n < 0
    · rw [if_pos (hSign.mpr hNegative), if_neg (by omega), List.cons_append]
    · rw [if_neg (fun hTrue => hNegative (hSign.mp hTrue)), if_pos (by omega)]

/-- A number of 64 bits is read from its digits, behind its sign. -/
theorem amount_toDigits (value : Int64) {rest : List Char} (hStops : Stops rest) :
    amount (decide (value.toInt < 0)) (Nat.toDigits 10 value.toInt.natAbs ++ rest) =
      .ok (.integer value.toInt, rest) := by
  have hLow := value.le_toInt
  have hHigh := value.toInt_lt
  generalize value.toInt = n at hLow hHigh
  have hLiteral := literal_whole (wholeText_toDigits n.natAbs) hStops
  have hAmount : Literal.amount (decide (n < 0)) { whole := Nat.toDigits 10 n.natAbs } =
      .ok (.integer n) := by
    simp only [Literal.amount, decimal_toDigits]
    have hPow63 : Nat.pow 2 63 = 9223372036854775808 := rfl
    have hPow64 : Nat.pow 2 64 = 18446744073709551616 := rfl
    by_cases hNegative : n < 0
    · have hSome : 0 < n.natAbs := by omega
      have hFits : n.natAbs ≤ Nat.pow 2 63 := by omega
      have hValue : -(n.natAbs : Int) = n := by omega
      rw [if_neg (by simp [hNegative]), if_pos (by simp [hNegative, hSome, hFits]), hValue]
    · have hFits : n.natAbs < Nat.pow 2 64 := by omega
      have hValue : (n.natAbs : Int) = n := by omega
      rw [if_pos (by simp [hNegative, hFits]), hValue]
  simp only [amount, hLiteral, hAmount]
  rfl

/-! ## §4 Values -/

/-- Helper: a list of values in full is no value of an entry. -/
private theorem contentItems_eq_ok {fuel room : Nat} {text rest : List Char} {read : Content}
    (h : contentItems fuel room text = .ok (read, rest)) : read = .other := by
  induction fuel generalizing text with
  | zero => cases h
  | succ fuel ih =>
    rw [contentItems] at h
    split at h
    · cases h
    · split at h
      · cases h
        rfl
      · exact ih h
      · cases h

/-- Helper: an object of values in full is no value of an entry. -/
private theorem contentMembers_eq_ok {fuel room : Nat} {text rest : List Char} {read : Content}
    (h : contentMembers fuel room text = .ok (read, rest)) : read = .other := by
  induction fuel generalizing text with
  | zero => cases h
  | succ fuel ih =>
    rw [contentMembers] at h
    split at h
    · cases h
    · split at h
      · cases h
      · split at h
        · cases h
          rfl
        · exact ih h
        · cases h

/-- A number that stands for the value of an entry is the text that the value is printed as. -/
theorem scalarText_of_amount {negative : Bool} {text rest : List Char} {size : Amount}
    {value : RecordValue} (hAmount : amount negative text = .ok (size, rest))
    (hValue : Content.value? (.number size) = some value) :
    ∃ written, ScalarText value written ∧
      (if negative then '-' :: text else text) = written ++ rest := by
  cases size with
  | float size => cases hValue
  | integer n =>
    obtain ⟨small, hSmall, rfl⟩ := Option.map_eq_some_iff.mp hValue
    obtain rfl := Number.int64OfInt?_eq_some_iff.mp hSmall
    exact ⟨_, rfl, amount_eq_integer hAmount⟩

/-- What is read in full and stands for the value of an entry is an integer or a string. -/
theorem content_eq_ok {fuel room : Nat} {text rest : List Char} {read : Content}
    {value : RecordValue} (h : content fuel room text = .ok (read, rest))
    (hValue : read.value? = some value) :
    ∃ written, ScalarText value written ∧ skipBlank text = written ++ rest := by
  have hNone : read ≠ .other := by
    rintro rfl
    cases hValue
  cases fuel with
  | zero => cases h
  | succ fuel =>
    -- none of the three words stands for a value
    have hWord : ∀ (word : Except Problem (List Char)),
        word.map (fun rest => (Content.other, rest)) ≠ .ok (read, rest) := by
      intro word hRead
      obtain ⟨behind, -, hEq⟩ := map_eq_ok_iff.mp hRead
      cases hEq
      exact hNone rfl
    rw [content] at h
    split at h
    · exact absurd h (hWord _)
    · exact absurd h (hWord _)
    · exact absurd h (hWord _)
    · rename_i hMinus
      obtain ⟨_, hAmount, hEq⟩ := map_eq_ok_iff.mp h
      cases hEq
      obtain ⟨written, hWritten, hText⟩ := scalarText_of_amount hAmount hValue
      exact ⟨written, hWritten, hMinus.trans hText⟩
    · rename_i behind hQuote
      obtain ⟨⟨string, after⟩, hString, hEq⟩ := map_eq_ok_iff.mp h
      cases hEq
      cases hValue
      obtain ⟨written, hWritten, hText⟩ := text_eq_ok_iff_stringText.mp hString
      exact ⟨written, hWritten, hQuote.trans hText⟩
    -- arrays and objects are read in full, but nothing comes of them
    · split at h
      · cases h
      · split at h
        · cases h
          exact absurd rfl hNone
        · exact absurd (contentItems_eq_ok h) hNone
    · split at h
      · cases h
      · split at h
        · cases h
          exact absurd rfl hNone
        · exact absurd (contentMembers_eq_ok h) hNone
    · rename_i hDigit
      split at h
      · obtain ⟨_, hAmount, hEq⟩ := map_eq_ok_iff.mp h
        cases hEq
        obtain ⟨written, hWritten, hText⟩ := scalarText_of_amount hAmount hValue
        exact ⟨written, hWritten, hDigit.trans hText⟩
      · cases h
    · cases h

/-- Helper: behind a digit there is a number. -/
private theorem content_digit {fuel room : Nat} {text rest behind : List Char} {c : Char}
    {size : Amount} (hText : skipBlank text = c :: rest) (hDigit : c.isDigit = true)
    (hAmount : amount false (c :: rest) = .ok (size, behind)) :
    content (fuel + 1) room text = .ok (.number size, behind) := by
  rw [content]
  split
  -- a digit is none of the characters that begin the other values
  case h_8 hBlank =>
    rw [hText] at hBlank
    cases hBlank
    rw [if_pos hDigit]
    exact map_eq_ok_iff.mpr ⟨_, hAmount, rfl⟩
  all_goals
    rename_i hBlank
    rw [hText] at hBlank
    cases hBlank
  all_goals cases hDigit

/-- An integer or a string is read in full as what it stands for. -/
theorem content_of_scalarText (fuel room : Nat) {text written rest : List Char}
    {value : RecordValue} (hScalar : ScalarText value written) (hStops : Stops rest)
    (hText : skipBlank text = written ++ rest) :
    ∃ read, content (fuel + 1) room text = .ok (read, rest) ∧ read.value? = some value := by
  cases value with
  | text string =>
    obtain ⟨more, rfl⟩ := StringText.exists_cons hScalar
    have hString : Json.text (more ++ rest) = .ok (string, rest) :=
      text_eq_ok_iff_stringText.mpr ⟨_, hScalar, rfl⟩
    refine ⟨.string string, ?_, rfl⟩
    simp only [content, hText, List.cons_append]
    exact map_eq_ok_iff.mpr ⟨_, hString, rfl⟩
  | int value =>
    have hAmount := amount_toDigits value hStops
    have hNumber : Content.value? (.number (.integer value.toInt)) = some (.int value) := by
      simp only [Content.value?, Number.int64OfInt?_eq_some_iff.mpr rfl, Option.map_some]
    refine ⟨.number (.integer value.toInt), ?_, hNumber⟩
    obtain rfl : written = (toString value.toInt).toList := hScalar
    rw [Number.toList_toString_int] at hText
    -- with the sign the minus comes first, and otherwise a digit does
    split at hText
    · rename_i hPositive
      rw [decide_eq_false (by omega)] at hAmount
      obtain ⟨c, more, hDigits, hDigit⟩ := (wholeText_toDigits value.toInt.natAbs).1.exists_cons
      rw [hDigits] at hText hAmount
      exact content_digit hText hDigit hAmount
    · rw [decide_eq_true (by omega)] at hAmount
      simp only [content, hText, List.cons_append]
      exact map_eq_ok_iff.mpr ⟨_, hAmount, rfl⟩

/-- An integer or a string is solid and does not begin as `null` does. -/
theorem ScalarText.solid {value : RecordValue} {written : List Char}
    (h : ScalarText value written) : Solid written ∧ written.head? ≠ some 'n' := by
  cases value with
  | text string =>
    obtain ⟨more, rfl⟩ := StringText.exists_cons h
    exact ⟨StringText.solid h, by simp⟩
  | int value =>
    obtain rfl : written = (toString value.toInt).toList := h
    rw [Number.toList_toString_int]
    split
    · obtain ⟨c, more, hDigits, hDigit⟩ := (wholeText_toDigits value.toInt.natAbs).1.exists_cons
      rw [hDigits]
      refine ⟨solid_of_isDigit hDigit more, ?_⟩
      rintro ⟨⟩
      cases hDigit
    · exact ⟨.cons (by decide) (by decide), by simp⟩

/-- What is read as a value or `null` is one. -/
theorem optionalValue_eq_ok {room : Nat} {text rest : List Char} {value : Option RecordValue}
    (h : optionalValue room text = .ok (value, rest)) :
    Begins (NullOr ScalarText) value text rest := by
  unfold optionalValue at h
  split at h
  · rename_i more hNull
    obtain ⟨behind, hWord, hRead⟩ := map_eq_ok_iff.mp h
    cases hRead
    obtain rfl := word_eq_ok_iff.mp hWord
    have hAbsent : NullOr ScalarText none ['n', 'u', 'l', 'l'] := rfl
    exact begins_of_skipBlank hAbsent hNull
  · split at h
    · cases h
    · rename_i read behind hContent
      split at h
      · rename_i present hValue
        cases h
        obtain ⟨written, hWritten, hText⟩ := content_eq_ok hContent hValue
        rw [skipBlank_skipBlank] at hText
        have hPresent : NullOr ScalarText (some present) written := hWritten
        exact begins_of_skipBlank hPresent hText
      · cases h

/-- Every value and `null` is read, if no number goes on behind it. -/
theorem optionalValue_of_begins (room : Nat) {text rest : List Char} {value : Option RecordValue}
    (h : Begins (NullOr ScalarText) value text rest) (hStops : Stops rest) :
    optionalValue room text = .ok (value, rest) := by
  obtain ⟨written, hWritten, hText⟩ :=
    h.skipBlank fun _ => NullOr.solid fun _ _ hScalar => hScalar.solid.1
  cases value with
  | none =>
    obtain rfl : written = ['n', 'u', 'l', 'l'] := hWritten
    simp only [optionalValue, hText, List.cons_append]
    exact map_eq_ok_iff.mpr ⟨rest, word_eq_ok_iff.mpr rfl, rfl⟩
  | some present =>
    obtain ⟨@⟨c, more, hBlank, -⟩, hHead⟩ := ScalarText.solid hWritten
    have hSkip : skipBlank (c :: more ++ rest) = c :: more ++ rest := skipBlank_cons hBlank _
    obtain ⟨read, hContent, hValue⟩ := content_of_scalarText (2 * (c :: more ++ rest).length + 1)
      room hWritten hStops hSkip
    unfold optionalValue
    split
    · -- a value does not begin as `null` does
      rename_i hNull
      rw [hText] at hNull
      cases hNull
      exact absurd rfl hHead
    · rw [hText, enough, hContent]
      simp only [hValue]

end Outline.Json
