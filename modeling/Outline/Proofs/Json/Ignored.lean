import Outline.Proofs.Json.Number
import Outline.Proofs.Json.Text

/-!
# Skipping ignored values

A value that nobody asked for is skipped exactly if it is well-formed JSON. Skipping works
with a bound on the number of steps; `enough` steps suffice for every text, since a step
that does not use up a character only goes from a list to its first item.

- `skipString_eq_ok_iff` — strings
- `skipAny_eq_ok` — what is skipped is a value
- `skipAny_append` — every value is skipped
-/

namespace Outline.Json

/-! ## §1 First characters -/

/-- The text begins with a character that is no blank and neither ends nor separates items. -/
inductive Solid : List Char → Prop where
  | cons {c : Char} {more : List Char} (hBlank : isBlank c = false) (hMark : c ∉ [']', '}', ',']) :
      Solid (c :: more)

theorem Solid.skipBlank {text : List Char} (h : Solid text) (rest : List Char) :
    skipBlank (text ++ rest) = text ++ rest := by
  cases h with
  | cons hBlank hMark => exact skipBlank_cons hBlank _

theorem Solid.append {text : List Char} (h : Solid text) (rest : List Char) :
    Solid (text ++ rest) := by
  cases h with
  | cons hBlank hMark => exact .cons hBlank hMark

theorem Solid.ne_cons {text : List Char} (h : Solid text) {mark : Char}
    (hMark : mark ∈ [']', '}', ',']) (rest : List Char) : text ≠ mark :: rest := by
  rintro rfl
  cases h with
  | cons hBlank hOther => exact hOther hMark

/-- Helper: digits are solid. -/
theorem solid_of_isDigit {c : Char} (h : c.isDigit = true) (more : List Char) :
    Solid (c :: more) := by
  refine .cons ?_ ?_
  · rw [Bool.eq_false_iff]
    intro hBlank
    have hMem := isBlank_iff.mp hBlank
    simp only [List.mem_cons, List.not_mem_nil, or_false] at hMem
    rcases hMem with rfl | rfl | rfl | rfl <;> cases h
  · simp only [List.mem_cons, List.not_mem_nil, or_false]
    rintro (rfl | rfl | rfl) <;> cases h

theorem IgnoredString.solid {text : List Char} (h : IgnoredString text) : Solid text := by
  cases h
  exact .cons (by decide) (by decide)

theorem UnsignedText.exists_cons {text : List Char} (h : UnsignedText text) :
    ∃ c more, text = c :: more ∧ c.isDigit = true := by
  cases h with
  | @parts whole fraction exponent hWhole hFraction hExponent =>
    obtain ⟨c, more, rfl, hc⟩ := hWhole.1.exists_cons
    exact ⟨c, _, rfl, hc⟩

theorem IgnoredText.solid {text : List Char} (h : IgnoredText text) : Solid text := by
  cases h with
  | word hWord =>
    simp only [List.mem_cons, List.not_mem_nil, or_false] at hWord
    rcases hWord with rfl | rfl | rfl <;> exact .cons (by decide) (by decide)
  | number hNumber =>
    cases hNumber with
    | positive hUnsigned =>
      obtain ⟨c, more, rfl, hc⟩ := hUnsigned.exists_cons
      exact solid_of_isDigit hc more
    | negative hUnsigned => exact .cons (by decide) (by decide)
  | string hString => exact hString.solid
  | emptyArray | array | emptyObject | object => exact .cons (by decide) (by decide)

/-! ## §2 Blanks around lists -/

/-- Blanks in front of items belong to the items. -/
theorem IgnoredItems.blanks {blanks items : List Char} (hBlanks : Blanks blanks)
    (h : IgnoredItems items) : IgnoredItems (blanks ++ items) := by
  cases h with
  | last hBefore hItem hAfter =>
    rw [← List.append_assoc]
    exact .last (hBlanks.append hBefore) hItem hAfter
  | more hBefore hItem hAfter hRest =>
    rw [← List.append_assoc]
    exact .more (hBlanks.append hBefore) hItem hAfter hRest

theorem IgnoredMembers.blanks {blanks members : List Char} (hBlanks : Blanks blanks)
    (h : IgnoredMembers members) : IgnoredMembers (blanks ++ members) := by
  cases h with
  | last hBefore hMember hAfter =>
    rw [← List.append_assoc]
    exact .last (hBlanks.append hBefore) hMember hAfter
  | more hBefore hMember hAfter hRest =>
    rw [← List.append_assoc]
    exact .more (hBlanks.append hBefore) hMember hAfter hRest

theorem IgnoredMember.solid {text : List Char} (h : IgnoredMember text) : Solid text := by
  cases h with
  | keyed hName hBefore hAfter hItem => exact hName.solid.append _

/-- Items without the blanks at their beginning are items. -/
theorem IgnoredItems.trim {items : List Char} (h : IgnoredItems items) :
    ∃ blanks trimmed, Blanks blanks ∧ IgnoredItems trimmed ∧ Solid trimmed ∧
      items = blanks ++ trimmed := by
  cases h with
  | last hBefore hItem hAfter =>
    exact ⟨_, _, hBefore, .last .nil hItem hAfter, hItem.solid.append _, rfl⟩
  | more hBefore hItem hAfter hRest =>
    exact ⟨_, _, hBefore, .more .nil hItem hAfter hRest, hItem.solid.append _, rfl⟩

theorem IgnoredMembers.trim {members : List Char} (h : IgnoredMembers members) :
    ∃ blanks trimmed, Blanks blanks ∧ IgnoredMembers trimmed ∧ Solid trimmed ∧
      members = blanks ++ trimmed := by
  cases h with
  | last hBefore hMember hAfter =>
    exact ⟨_, _, hBefore, .last .nil hMember hAfter, hMember.solid.append _, rfl⟩
  | more hBefore hMember hAfter hRest =>
    exact ⟨_, _, hBefore, .more .nil hMember hAfter hRest, hMember.solid.append _, rfl⟩

/-! ## §3 Strings -/

theorem skipEscape_eq_ok_iff {text rest : List Char} :
    skipEscape text = .ok rest ↔
      (∃ letter c, (letter, c) ∈ shortEscapes ∧ text = letter :: rest) ∨
        ∃ n digits, FourHex n digits ∧ text = 'u' :: (digits ++ rest) := by
  constructor
  · intro h
    unfold skipEscape at h
    split at h
    · cases h
    · obtain ⟨⟨n, behind⟩, hFour, hRest⟩ := map_eq_ok_iff.mp h
      cases hRest
      obtain ⟨digits, hDigits, rfl⟩ := fourDigits_eq_ok_iff.mp hFour
      exact .inr ⟨n, digits, hDigits, rfl⟩
    · rename_i letter more _
      split at h
      · rename_i hShort
        cases h
        obtain ⟨c, hc⟩ := Option.isSome_iff_exists.mp hShort
        exact .inl ⟨letter, c, shortEscape?_eq_some_iff.mp hc, rfl⟩
      · cases h
  · rintro (⟨letter, c, hShort, rfl⟩ | ⟨n, digits, hDigits, rfl⟩)
    · have hEscape := shortEscape?_eq_some_iff.mpr hShort
      have hLetter : letter ≠ 'u' := by
        rintro rfl
        cases hEscape
      unfold skipEscape
      split
      · rename_i hEmpty
        cases hEmpty
      · rename_i hCode
        cases hCode
        exact absurd rfl hLetter
      · rename_i hCons
        cases hCons
        rw [hEscape]
        rfl
    · have hFour : fourDigits (digits ++ rest) = .ok (n, rest) :=
        fourDigits_eq_ok_iff.mpr ⟨digits, hDigits, rfl⟩
      show (fourDigits (digits ++ rest)).map (·.2) = .ok rest
      rw [hFour]
      rfl

/-- A string is skipped behind its opening quote if it is there. -/
theorem skipString_eq_ok_iff {text rest : List Char} :
    skipString text = .ok rest ↔
      ∃ inner, IgnoredChars inner ∧ text = inner ++ '"' :: rest := by
  constructor
  · intro h
    fun_induction skipString text with
    | case1 => cases h
    | case2 more =>
      cases h
      exact ⟨[], .nil, rfl⟩
    | case3 more problem hError => cases h
    | case4 more behind hEscape ih =>
      obtain ⟨inner, hInner, rfl⟩ := ih h
      rcases skipEscape_eq_ok_iff.mp hEscape with ⟨letter, c, hShort, rfl⟩ | ⟨n, digits, hDigits, rfl⟩
      · exact ⟨'\\' :: letter :: inner, .short hShort hInner, rfl⟩
      · exact ⟨'\\' :: 'u' :: (digits ++ inner), .code hDigits hInner, by simp⟩
    | case5 c more _ _ hControl => cases h
    | case6 c more hQuote hSlash hControl ih =>
      obtain ⟨inner, hInner, rfl⟩ := ih h
      exact ⟨c :: inner, .plain (by omega) hQuote hSlash hInner, rfl⟩
  · rintro ⟨inner, hInner, rfl⟩
    -- an escape that is skipped leaves the string to go on behind it
    have hEscaped : ∀ escape behind : List Char,
        skipEscape (escape ++ behind) = .ok behind → skipString behind = .ok rest →
        skipString ('\\' :: (escape ++ behind)) = .ok rest := by
      intro escape behind hEscape hBehind
      rw [skipString]
      split
      · rename_i problem hError
        rw [hEscape] at hError
        cases hError
      · rename_i more hOk
        rw [hEscape] at hOk
        cases hOk
        exact hBehind
    induction hInner with
    | nil => rw [List.nil_append, skipString]
    | plain hControl hQuote hSlash _ ih =>
      rw [List.cons_append, skipString, if_neg (by omega)]
      · exact ih
      · exact hQuote
      · exact hSlash
    | @short c letter more hShort _ ih =>
      exact hEscaped [letter] _
        (skipEscape_eq_ok_iff.mpr (.inl ⟨letter, c, hShort, rfl⟩)) ih
    | @code n digits more hDigits _ ih =>
      have hCode := hEscaped ('u' :: digits) _
        (skipEscape_eq_ok_iff.mpr (.inr ⟨n, digits, hDigits, rfl⟩)) ih
      simpa using hCode

/-! ## §4 What is skipped is a value -/

theorem skipKey_eq_ok_iff {text rest : List Char} :
    skipKey text = .ok rest ↔ ∃ before name after, Blanks before ∧ IgnoredString name ∧
      Blanks after ∧ text = before ++ (name ++ (after ++ ':' :: rest)) := by
  constructor
  · intro h
    unfold skipKey at h
    split at h
    · rename_i inner hQuote
      obtain ⟨before, hBefore, rfl⟩ := (skipBlank_eq_cons_iff (by decide)).mp hQuote
      obtain ⟨behind, hString, hColon⟩ := bind_eq_ok_iff.mp h
      obtain ⟨name, hName, rfl⟩ := skipString_eq_ok_iff.mp hString
      obtain ⟨after, hAfter, rfl⟩ := colon_eq_ok_iff.mp hColon
      exact ⟨before, _, after, hBefore, .quoted hName, hAfter, by simp⟩
    · cases h
  · rintro ⟨before, _, after, hBefore, @⟨inner, hInner⟩, hAfter, rfl⟩
    have hQuote : skipBlank (before ++ ('"' :: (inner ++ ['"']) ++ (after ++ ':' :: rest))) =
        '"' :: (inner ++ '"' :: (after ++ ':' :: rest)) :=
      (skipBlank_eq_cons_iff (by decide)).mpr ⟨before, hBefore, by simp⟩
    simp only [skipKey, hQuote]
    exact bind_eq_ok_iff.mpr ⟨_, skipString_eq_ok_iff.mpr ⟨inner, hInner, rfl⟩,
      colon_eq_ok_iff.mpr ⟨after, hAfter, rfl⟩⟩

/-- Helper: what a successful step of skipping a value has skipped, if lists are skipped
    rightly. -/
private theorem skipValue_step {fuel : Nat} {text rest : List Char}
    (hItems : ∀ text rest, skipItems fuel text = .ok rest →
      ∃ items, IgnoredItems items ∧ text = items ++ ']' :: rest)
    (hMembers : ∀ text rest, skipMembers fuel text = .ok rest →
      ∃ members, IgnoredMembers members ∧ text = members ++ '}' :: rest)
    (h : skipValue (fuel + 1) text = .ok rest) :
    ∃ value, IgnoredText value ∧ skipBlank text = value ++ rest := by
  rw [skipValue] at h
  split at h
  · rename_i hBlank
    rw [word_eq_ok_iff.mp h] at hBlank
    exact ⟨['n', 'u', 'l', 'l'], .word (by decide), hBlank⟩
  · rename_i hBlank
    rw [word_eq_ok_iff.mp h] at hBlank
    exact ⟨['t', 'r', 'u', 'e'], .word (by decide), hBlank⟩
  · rename_i hBlank
    rw [word_eq_ok_iff.mp h] at hBlank
    exact ⟨['f', 'a', 'l', 's', 'e'], .word (by decide), hBlank⟩
  · rename_i hBlank
    obtain ⟨written, hWritten, rfl⟩ := skipNumber_eq_ok h
    exact ⟨_, .number (.negative hWritten), hBlank⟩
  · rename_i hBlank
    obtain ⟨inner, hInner, rfl⟩ := skipString_eq_ok_iff.mp h
    exact ⟨_, .string (.quoted hInner), by simp [hBlank]⟩
  · rename_i more hBlank
    obtain ⟨blanks, hBlanks, hMore⟩ := exists_blanks_append_skipBlank more
    -- the blanks behind the bracket belong to the items, or to nothing
    split at h
    · rename_i hClose
      cases h
      rw [hClose] at hMore
      exact ⟨_, .emptyArray hBlanks, by simp [hBlank, hMore]⟩
    · obtain ⟨items, hSome, hRest⟩ := hItems _ _ h
      rw [hRest] at hMore
      exact ⟨_, .array (hSome.blanks hBlanks), by simp [hBlank, hMore]⟩
  · rename_i more hBlank
    obtain ⟨blanks, hBlanks, hMore⟩ := exists_blanks_append_skipBlank more
    split at h
    · rename_i hClose
      cases h
      rw [hClose] at hMore
      exact ⟨_, .emptyObject hBlanks, by simp [hBlank, hMore]⟩
    · obtain ⟨members, hSome, hRest⟩ := hMembers _ _ h
      rw [hRest] at hMore
      exact ⟨_, .object (hSome.blanks hBlanks), by simp [hBlank, hMore]⟩
  · rename_i hBlank
    split at h
    · obtain ⟨written, hWritten, hText⟩ := skipNumber_eq_ok h
      exact ⟨written, .number (.positive hWritten), hBlank.trans hText⟩
    · cases h
  · cases h

/-- Helper: what is skipped as a value, as items or as members is that. By induction on the
    steps that are left. -/
private theorem skip_eq_ok (fuel : Nat) :
    (∀ text rest, skipValue fuel text = .ok rest →
      ∃ value, IgnoredText value ∧ skipBlank text = value ++ rest) ∧
    (∀ text rest, skipItems fuel text = .ok rest →
      ∃ items, IgnoredItems items ∧ text = items ++ ']' :: rest) ∧
    (∀ text rest, skipMembers fuel text = .ok rest →
      ∃ members, IgnoredMembers members ∧ text = members ++ '}' :: rest) := by
  induction fuel with
  | zero =>
    refine ⟨?_, ?_, ?_⟩ <;> intro text rest h <;> cases h
  | succ fuel ih =>
    obtain ⟨ihValue, ihItems, ihMembers⟩ := ih
    refine ⟨fun text rest => skipValue_step ihItems ihMembers, ?_, ?_⟩
    · -- items: a value with blanks around it, then a bracket or a comma
      intro text rest h
      rw [skipItems] at h
      split at h
      · cases h
      · rename_i behind hValue
        obtain ⟨item, hItem, hText⟩ := ihValue _ _ hValue
        obtain ⟨before, hBefore, hSplit⟩ := exists_blanks_append_skipBlank text
        obtain ⟨after, hAfter, hBehind⟩ := exists_blanks_append_skipBlank behind
        rw [hText] at hSplit
        split at h
        · rename_i hClose
          cases h
          rw [hClose] at hBehind
          exact ⟨_, .last hBefore hItem hAfter, by simp [hSplit, hBehind]⟩
        · rename_i more hComma
          obtain ⟨items, hItems, hMore⟩ := ihItems _ _ h
          rw [hComma, hMore] at hBehind
          exact ⟨_, .more hBefore hItem hAfter hItems, by simp [hSplit, hBehind]⟩
        · cases h
    · -- members: the same behind a name
      intro text rest h
      rw [skipMembers] at h
      split at h
      · cases h
      · rename_i value hKey
        obtain ⟨before, name, colon, hBefore, hName, hColon, rfl⟩ := skipKey_eq_ok_iff.mp hKey
        split at h
        · cases h
        · rename_i behind hValue
          obtain ⟨item, hItem, hText⟩ := ihValue _ _ hValue
          obtain ⟨blanks, hBlanks, hSplit⟩ := exists_blanks_append_skipBlank value
          obtain ⟨after, hAfter, hBehind⟩ := exists_blanks_append_skipBlank behind
          rw [hText] at hSplit
          have hMember := IgnoredMember.keyed hName hColon hBlanks hItem
          split at h
          · rename_i hClose
            cases h
            rw [hClose] at hBehind
            exact ⟨_, .last hBefore hMember hAfter, by simp [hSplit, hBehind]⟩
          · rename_i more hComma
            obtain ⟨members, hMembers, hMore⟩ := ihMembers _ _ h
            rw [hComma, hMore] at hBehind
            exact ⟨_, .more hBefore hMember hAfter hMembers, by simp [hSplit, hBehind]⟩
          · cases h

/-- **Soundness of skipping.** What is skipped is a value with blanks in front of it. -/
theorem skipAny_eq_ok {text rest : List Char} (h : skipAny text = .ok rest) :
    ∃ blanks value, Blanks blanks ∧ IgnoredText value ∧ text = blanks ++ (value ++ rest) := by
  obtain ⟨value, hValue, hText⟩ := (skip_eq_ok (enough text)).1 text rest h
  obtain ⟨blanks, hBlanks, hSplit⟩ := exists_blanks_append_skipBlank text
  rw [hText] at hSplit
  exact ⟨blanks, value, hBlanks, hValue, hSplit⟩

/-! ## §5 Every value is skipped -/

/-- Blanks end a number, and so does what ends it behind them. -/
theorem Stops.blanks {blanks rest : List Char} (hBlanks : Blanks blanks) (h : Stops rest) :
    Stops (blanks ++ rest) := by
  cases blanks with
  | nil => exact h
  | cons c more =>
    have hBlank := hBlanks c (List.mem_cons_self ..)
    simp only [List.mem_cons, List.not_mem_nil, or_false] at hBlank
    rcases hBlank with rfl | rfl | rfl | rfl <;> exact stops_cons (by decide) (by decide)

theorem stops_mark {mark : Char} {rest : List Char} (h : mark ∈ [']', '}', ',']) :
    Stops (mark :: rest) := by
  simp only [List.mem_cons, List.not_mem_nil, or_false] at h
  rcases h with rfl | rfl | rfl <;> exact stops_cons (by decide) (by decide)

/-- Within `fuel` steps every value is skipped that is short enough for them. -/
def SkipsValues (fuel : Nat) : Prop :=
  ∀ text value rest, IgnoredText value → Stops rest → skipBlank text = value ++ rest →
    2 * (value ++ rest).length + 1 ≤ fuel → skipValue fuel text = .ok rest

/-- Within `fuel` steps all items are skipped that are short enough for them. -/
def SkipsItems (fuel : Nat) : Prop :=
  ∀ items rest, IgnoredItems items → 2 * (items ++ ']' :: rest).length + 2 ≤ fuel →
    skipItems fuel (items ++ ']' :: rest) = .ok rest

/-- Within `fuel` steps all members are skipped that are short enough for them. -/
def SkipsMembers (fuel : Nat) : Prop :=
  ∀ members rest, IgnoredMembers members → 2 * (members ++ '}' :: rest).length + 2 ≤ fuel →
    skipMembers fuel (members ++ '}' :: rest) = .ok rest

/-- A value is skipped in one step more than the lists in it. -/
theorem SkipsValues.succ {fuel : Nat} (hItems : SkipsItems fuel) (hMembers : SkipsMembers fuel) :
    SkipsValues (fuel + 1) := by
  intro text value rest hValue hStops hText hFuel
  rw [skipValue, hText]
  cases hValue with
  | word hWord =>
    simp only [List.mem_cons, List.not_mem_nil, or_false] at hWord
    rcases hWord with rfl | rfl | rfl <;> exact word_eq_ok_iff.mpr rfl
  | number hNumber =>
    cases hNumber with
    | positive hUnsigned =>
      obtain ⟨c, more, rfl, hDigit⟩ := hUnsigned.exists_cons
      -- a digit is none of the characters that begin the other values
      split
      case h_8 hBegin =>
        cases hBegin
        rw [if_pos hDigit]
        exact skipNumber_append hUnsigned hStops
      all_goals
        rename_i hBegin
        cases hBegin
      all_goals cases hDigit
    | negative hUnsigned => exact skipNumber_append hUnsigned hStops
  | string hString =>
    cases hString with
    | quoted hInner => exact skipString_eq_ok_iff.mpr ⟨_, hInner, by simp⟩
  | @emptyArray blanks hBlanks =>
    have hClose : skipBlank (blanks ++ [']'] ++ rest) = ']' :: rest := by
      rw [List.append_assoc]
      exact skipBlank_append_cons (c := ']') hBlanks (by decide) rest
    simp only [List.cons_append, hClose]
  | array hSome =>
    -- items are skipped from where their blanks end, which is not at the closing bracket
    obtain ⟨blanks, items, hBlanks, hTrimmed, hSolid, rfl⟩ := hSome.trim
    have hSkip : skipBlank (blanks ++ items ++ [']'] ++ rest) = items ++ ']' :: rest := by
      rw [List.append_assoc, List.append_assoc, skipBlank_append hBlanks]
      exact hSolid.skipBlank _
    simp only [List.cons_append, hSkip]
    split
    · rename_i hClose
      exact absurd hClose ((hSolid.append _).ne_cons (by decide) _)
    · refine hItems items rest hTrimmed ?_
      simp only [List.length_append, List.length_cons, List.length_nil] at hFuel ⊢
      omega
  | @emptyObject blanks hBlanks =>
    have hClose : skipBlank (blanks ++ ['}'] ++ rest) = '}' :: rest := by
      rw [List.append_assoc]
      exact skipBlank_append_cons (c := '}') hBlanks (by decide) rest
    simp only [List.cons_append, hClose]
  | object hSome =>
    obtain ⟨blanks, members, hBlanks, hTrimmed, hSolid, rfl⟩ := hSome.trim
    have hSkip : skipBlank (blanks ++ members ++ ['}'] ++ rest) = members ++ '}' :: rest := by
      rw [List.append_assoc, List.append_assoc, skipBlank_append hBlanks]
      exact hSolid.skipBlank _
    simp only [List.cons_append, hSkip]
    split
    · rename_i hClose
      exact absurd hClose ((hSolid.append _).ne_cons (by decide) _)
    · refine hMembers members rest hTrimmed ?_
      simp only [List.length_append, List.length_cons, List.length_nil] at hFuel ⊢
      omega

/-- A value in a list is skipped up to the mark behind it. -/
theorem SkipsValues.item {fuel : Nat} (h : SkipsValues fuel) (mark : Char) (rest : List Char)
    {before item after : List Char} (hMark : mark ∈ [']', '}', ',']) (hBefore : Blanks before)
    (hItem : IgnoredText item) (hAfter : Blanks after)
    (hFuel : 2 * (item ++ (after ++ mark :: rest)).length + 1 ≤ fuel) :
    skipValue fuel (before ++ (item ++ (after ++ mark :: rest))) = .ok (after ++ mark :: rest) := by
  have hText : skipBlank (before ++ (item ++ (after ++ mark :: rest))) =
      item ++ (after ++ mark :: rest) := by
    rw [skipBlank_append hBefore]
    exact hItem.solid.skipBlank _
  exact h _ item _ hItem (.blanks hAfter (stops_mark hMark)) hText hFuel

/-- Items are skipped in one step more than the first of them. -/
theorem SkipsItems.succ {fuel : Nat} (hValues : SkipsValues fuel) (hItems : SkipsItems fuel) :
    SkipsItems (fuel + 1) := by
  intro items rest hSome hFuel
  cases hSome with
  | @last before item after hBefore hItem hAfter =>
    simp only [List.append_assoc, List.length_append, List.length_cons] at hFuel ⊢
    have hValue := hValues.item ']' rest (by decide) hBefore hItem hAfter
      (by simp only [List.length_append, List.length_cons]; omega)
    simp only [skipItems, hValue, skipBlank_append_cons (c := ']') hAfter (by decide)]
  | @more before item after others hBefore hItem hAfter hOthers =>
    simp only [List.append_assoc, List.cons_append, List.length_append, List.length_cons]
      at hFuel ⊢
    have hValue := hValues.item ',' (others ++ ']' :: rest) (by decide)
      hBefore hItem hAfter (by simp only [List.length_append, List.length_cons]; omega)
    simp only [skipItems, hValue, skipBlank_append_cons (c := ',') hAfter (by decide)]
    -- the comma is a character less for the other items
    refine hItems others rest hOthers ?_
    simp only [List.length_append, List.length_cons]
    omega

/-- A member is skipped up to the mark behind it: its name first, and then its value. -/
theorem SkipsValues.member {fuel : Nat} (h : SkipsValues fuel) (mark : Char) (rest : List Char)
    {before member after : List Char} (hMark : mark ∈ [']', '}', ','])
    (hBefore : Blanks before) (hMember : IgnoredMember member) (hAfter : Blanks after)
    (hFuel : 2 * (member ++ (after ++ mark :: rest)).length + 1 ≤ fuel) :
    ∃ value, skipKey (before ++ (member ++ (after ++ mark :: rest))) = .ok value ∧
      skipValue fuel value = .ok (after ++ mark :: rest) := by
  cases hMember with
  | @keyed name colon blanks item hName hColon hBlanks hItem =>
    refine ⟨blanks ++ (item ++ (after ++ mark :: rest)), ?_, ?_⟩
    · exact skipKey_eq_ok_iff.mpr ⟨before, name, colon, hBefore, hName, hColon, by simp⟩
    · refine h.item mark rest hMark hBlanks hItem hAfter ?_
      simp only [List.length_append, List.length_cons] at hFuel ⊢
      omega

/-- Members are skipped in one step more than the value of the first of them. -/
theorem SkipsMembers.succ {fuel : Nat} (hValues : SkipsValues fuel)
    (hMembers : SkipsMembers fuel) : SkipsMembers (fuel + 1) := by
  intro members rest hSome hFuel
  cases hSome with
  | @last before member after hBefore hMember hAfter =>
    simp only [List.append_assoc, List.length_append, List.length_cons] at hFuel ⊢
    obtain ⟨value, hKey, hValue⟩ := hValues.member '}' rest (by decide)
      hBefore hMember hAfter (by simp only [List.length_append, List.length_cons]; omega)
    simp only [skipMembers, hKey, hValue, skipBlank_append_cons (c := '}') hAfter (by decide)]
  | @more before member after others hBefore hMember hAfter hOthers =>
    simp only [List.append_assoc, List.cons_append, List.length_append, List.length_cons]
      at hFuel ⊢
    obtain ⟨value, hKey, hValue⟩ := hValues.member ',' (others ++ '}' :: rest)
      (by decide) hBefore hMember hAfter
      (by simp only [List.length_append, List.length_cons]; omega)
    simp only [skipMembers, hKey, hValue, skipBlank_append_cons (c := ',') hAfter (by decide)]
    refine hMembers others rest hOthers ?_
    simp only [List.length_append, List.length_cons]
    omega

/-- Two steps for each character are enough, whatever is skipped. -/
theorem skips (fuel : Nat) : SkipsValues fuel ∧ SkipsItems fuel ∧ SkipsMembers fuel := by
  induction fuel with
  | zero =>
    -- nothing is short enough for no steps
    refine ⟨?_, ?_, ?_⟩
    · intro text value rest _ _ _ hFuel
      omega
    · intro items rest _ hFuel
      omega
    · intro members rest _ hFuel
      omega
  | succ fuel ih =>
    obtain ⟨hValues, hItems, hMembers⟩ := ih
    exact ⟨.succ hItems hMembers, .succ hValues hItems, .succ hValues hMembers⟩

/-- **Completeness of skipping.** Every value is skipped, with the blanks in front of it, if
    no number goes on behind it. -/
theorem skipAny_append {blanks value rest : List Char} (hBlanks : Blanks blanks)
    (hValue : IgnoredText value) (hStops : Stops rest) :
    skipAny (blanks ++ (value ++ rest)) = .ok rest := by
  have hText : skipBlank (blanks ++ (value ++ rest)) = value ++ rest := by
    rw [skipBlank_append hBlanks]
    exact hValue.solid.skipBlank rest
  refine (skips _).1 _ value rest hValue hStops hText ?_
  simp only [enough, List.length_append]
  omega

end Outline.Json
