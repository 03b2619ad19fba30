import Mathlib.Data.List.TakeWhile
import Mathlib.Tactic.Tauto
import Outline.Json.Skip
import Outline.Proofs.Json.Grammar
import Outline.Proofs.Number.Digits

/-!
# Scanners of blanks, words and strings

What each scanner of JSON text accepts, in the words of the grammar. A scanner succeeds
exactly if the text begins with a form of the grammar, and returns what the form writes and
the text after it.

- `skipBlank_eq_cons_iff`, `colon_eq_ok_iff`, `word_eq_ok_iff` — blanks, colons and words
- `text_eq_ok_iff_stringText` — strings
-/

namespace Outline.Json

/-! ## §1 Results -/

theorem map_eq_ok_iff {α β : Type} {result : Except Problem α} {change : α → β} {value : β} :
    result.map change = .ok value ↔ ∃ read, result = .ok read ∧ change read = value := by
  cases result with
  | error problem => simp only [Except.map, reduceCtorEq, false_and, exists_false]
  | ok read => simp only [Except.map, Except.ok.injEq, exists_eq_left']

theorem bind_eq_ok_iff {α β : Type} {result : Except Problem α} {next : α → Except Problem β}
    {value : β} :
    result >>= next = .ok value ↔ ∃ read, result = .ok read ∧ next read = .ok value := by
  cases result with
  | error problem => simp only [bind, Except.bind, reduceCtorEq, false_and, exists_false]
  | ok read => simp only [bind, Except.bind, Except.ok.injEq, exists_eq_left']

/-! ## §2 Blanks, words and colons -/

theorem isBlank_iff {c : Char} : isBlank c = true ↔ c ∈ [' ', '\t', '\n', '\r'] := by
  simp only [isBlank, Bool.or_eq_true, beq_iff_eq, List.mem_cons, List.not_mem_nil, or_false]
  tauto

theorem Blanks.nil : Blanks [] := fun _ h => nomatch h

theorem Blanks.append {first second : List Char} (hFirst : Blanks first)
    (hSecond : Blanks second) : Blanks (first ++ second) := by
  intro c hc
  rcases List.mem_append.mp hc with h | h
  · exact hFirst c h
  · exact hSecond c h

theorem skipBlank_append {blanks : List Char} (h : Blanks blanks) (text : List Char) :
    skipBlank (blanks ++ text) = skipBlank text :=
  List.dropWhile_append_of_pos fun c hc => isBlank_iff.mpr (h c hc)

theorem skipBlank_cons {c : Char} (h : isBlank c = false) (rest : List Char) :
    skipBlank (c :: rest) = c :: rest :=
  List.dropWhile_cons_of_neg (by rw [h]; exact Bool.false_ne_true)

theorem skipBlank_append_cons {blanks : List Char} {c : Char} (hBlanks : Blanks blanks)
    (hSolid : isBlank c = false) (rest : List Char) :
    skipBlank (blanks ++ c :: rest) = c :: rest := by
  rw [skipBlank_append hBlanks, skipBlank_cons hSolid]

/-- Every text is blanks and what is left when they are skipped. -/
theorem exists_blanks_append_skipBlank (text : List Char) :
    ∃ blanks, Blanks blanks ∧ text = blanks ++ skipBlank text := by
  refine ⟨text.takeWhile isBlank, ?_, List.takeWhile_append_dropWhile.symm⟩
  intro c hc
  exact isBlank_iff.mp (List.mem_takeWhile_imp hc)

/-- Text goes on with a character behind the blanks exactly if the blanks are in front of
    it. -/
theorem skipBlank_eq_cons_iff {text rest : List Char} {c : Char} (hSolid : isBlank c = false) :
    skipBlank text = c :: rest ↔ ∃ blanks, Blanks blanks ∧ text = blanks ++ c :: rest := by
  constructor
  · intro h
    obtain ⟨blanks, hBlanks, hText⟩ := exists_blanks_append_skipBlank text
    rw [h] at hText
    exact ⟨blanks, hBlanks, hText⟩
  · rintro ⟨blanks, hBlanks, rfl⟩
    exact skipBlank_append_cons hBlanks hSolid rest

theorem length_skipBlank_le (text : List Char) : (skipBlank text).length ≤ text.length :=
  List.length_dropWhile_le isBlank text

theorem skipBlank_skipBlank (text : List Char) : skipBlank (skipBlank text) = skipBlank text := by
  obtain ⟨blanks, hBlanks, hText⟩ := exists_blanks_append_skipBlank text
  rw [← skipBlank_append hBlanks, ← hText]

/-- Nothing is left behind the blanks exactly if there is nothing but blanks. -/
theorem skipBlank_eq_nil_iff {text : List Char} : skipBlank text = [] ↔ Blanks text := by
  constructor
  · intro h
    obtain ⟨blanks, hBlanks, hText⟩ := exists_blanks_append_skipBlank text
    rw [h, List.append_nil] at hText
    rw [hText]
    exact hBlanks
  · intro h
    have hAppend := skipBlank_append h []
    rw [List.append_nil] at hAppend
    exact hAppend

theorem word_eq_ok_iff {expected text rest : List Char} :
    word expected text = .ok rest ↔ text = expected ++ rest := by
  induction expected generalizing text with
  | nil => simp only [word, Except.ok.injEq, List.nil_append]
  | cons c more ih =>
    cases text with
    | nil => simp only [word, List.cons_append, reduceCtorEq]
    | cons d text =>
      by_cases h : c = d
      · subst h
        simp only [word, if_true, ih, List.cons_append, List.cons.injEq, true_and]
      · simp only [word, h, if_false, List.cons_append, List.cons.injEq, Ne.symm h, false_and,
          reduceCtorEq]

theorem colon_eq_ok_iff {text rest : List Char} :
    colon text = .ok rest ↔ ∃ blanks, Blanks blanks ∧ text = blanks ++ ':' :: rest := by
  rw [← skipBlank_eq_cons_iff (by decide), colon]
  split
  · rename_i more h
    simp only [h, Except.ok.injEq, List.cons.injEq, true_and]
  · rename_i more h
    constructor
    · intro hError
      cases hError
    · intro hColon
      exact absurd hColon (h rest)

/-! ## §3 Strings -/

/-- Four characters are read as a number exactly if they are its hexadecimal digits. -/
theorem natOfDigits?_sixteen_iff {first second third fourth : Char} {n : Nat} :
    Number.natOfDigits? 16 [first, second, third, fourth] = some n ↔
      FourHex n [first, second, third, fourth] := by
  constructor
  · intro h
    simp only [Number.natOfDigits?, List.isEmpty_cons, Bool.false_eq_true, if_false,
      Number.natAfter?] at h
    cases h1 : Number.digit? 16 first with
    | none => simp only [h1, reduceCtorEq] at h
    | some a =>
      cases h2 : Number.digit? 16 second with
      | none => simp only [h1, h2, reduceCtorEq] at h
      | some b =>
        cases h3 : Number.digit? 16 third with
        | none => simp only [h1, h2, h3, reduceCtorEq] at h
        | some c =>
          cases h4 : Number.digit? 16 fourth with
          | none => simp only [h1, h2, h3, h4, reduceCtorEq] at h
          | some d =>
            simp only [h1, h2, h3, h4, Option.some.injEq] at h
            have hSum : n = a * 4096 + b * 256 + c * 16 + d := by omega
            rw [hSum]
            exact .digits (Number.digit?_sixteen_iff.mp h1) (Number.digit?_sixteen_iff.mp h2)
              (Number.digit?_sixteen_iff.mp h3) (Number.digit?_sixteen_iff.mp h4)
  · intro h
    cases h with
    | @digits a b c d _ _ _ _ h1 h2 h3 h4 =>
      simp only [Number.natOfDigits?, List.isEmpty_cons, Bool.false_eq_true, if_false,
        Number.natAfter?, Number.digit?_sixteen_iff.mpr h1, Number.digit?_sixteen_iff.mpr h2,
        Number.digit?_sixteen_iff.mpr h3, Number.digit?_sixteen_iff.mpr h4]
      congr 1
      omega

theorem fourDigits_eq_ok_iff {text rest : List Char} {n : Nat} :
    fourDigits text = .ok (n, rest) ↔ ∃ digits, FourHex n digits ∧ text = digits ++ rest := by
  constructor
  · intro h
    unfold fourDigits at h
    split at h
    · rename_i a b c d more
      split at h
      · rename_i m hDigits
        cases h
        exact ⟨[a, b, c, d], natOfDigits?_sixteen_iff.mp hDigits, rfl⟩
      · cases h
    · cases h
  · rintro ⟨digits, hDigits, rfl⟩
    have hFour := hDigits
    cases hDigits
    simp only [List.cons_append, List.nil_append, fourDigits, natOfDigits?_sixteen_iff.mpr hFour]

/-- The escapes with one letter are those of the grammar. -/
theorem shortEscape?_eq_some_iff {letter c : Char} :
    shortEscape? letter = some c ↔ (letter, c) ∈ shortEscapes := by
  constructor
  · intro h
    -- one of three characters that stand for themselves, or one of five letters
    simp only [shortEscape?, ite_eq_iff, Bool.or_eq_true, beq_iff_eq, Option.some.injEq,
      reduceCtorEq, and_false, or_false] at h
    rcases h with ⟨(rfl | rfl) | rfl, rfl⟩ | ⟨-, ⟨rfl, rfl⟩ | ⟨-, ⟨rfl, rfl⟩ | ⟨-, ⟨rfl, rfl⟩ |
      ⟨-, ⟨rfl, rfl⟩ | ⟨-, rfl, rfl⟩⟩⟩⟩⟩ <;> decide
  · simp only [shortEscapes, List.mem_cons, Prod.mk.injEq, List.not_mem_nil, or_false]
    rintro (⟨rfl, rfl⟩ | ⟨rfl, rfl⟩ | ⟨rfl, rfl⟩ | ⟨rfl, rfl⟩ | ⟨rfl, rfl⟩ | ⟨rfl, rfl⟩ |
      ⟨rfl, rfl⟩ | ⟨rfl, rfl⟩) <;> rfl

/-- No half of a surrogate pair is the code point of a character. -/
theorem toNat_not_surrogate (c : Char) : isLeading c.toNat = false ∧ isTrailing c.toNat = false := by
  have hValid : c.toNat < 0xD800 ∨ 0xDFFF < c.toNat ∧ c.toNat < 0x110000 := c.valid
  simp only [isLeading, isTrailing, Bool.and_eq_false_iff, decide_eq_false_iff_not]
  omega

/-- A number below the surrogates or above them is a code point. -/
theorem toNat_ofNat_of_not_surrogate {n : Nat} (hSmall : n < 0x110000)
    (hLeading : isLeading n = false) (hTrailing : isTrailing n = false) :
    (Char.ofNat n).toNat = n := by
  have hValid : n.isValidChar := by
    simp only [isLeading, isTrailing, Bool.and_eq_false_iff, decide_eq_false_iff_not] at *
    unfold Nat.isValidChar
    omega
  rw [Char.ofNat, dif_pos hValid]
  rfl

theorem FourHex.lt {n : Nat} {digits : List Char} (h : FourHex n digits) : n < 0x10000 := by
  cases h with
  | digits h1 h2 h3 h4 =>
    have := h1.1
    have := h2.1
    have := h3.1
    have := h4.1
    omega

theorem secondHalf_eq_ok_iff {leading : Nat} {text rest : List Char} {c : Char} :
    secondHalf leading text = .ok (c, rest) ↔
      ∃ n digits, FourHex n digits ∧ isTrailing n = true ∧ c = ofPair leading n ∧
        text = '\\' :: 'u' :: (digits ++ rest) := by
  constructor
  · intro h
    unfold secondHalf at h
    split at h
    · split at h
      · cases h
      · rename_i n more hFour
        split at h
        · rename_i hTrailing
          simp only [Except.ok.injEq, Prod.mk.injEq] at h
          obtain ⟨hChar, rfl⟩ := h
          obtain ⟨digits, hDigits, rfl⟩ := fourDigits_eq_ok_iff.mp hFour
          exact ⟨n, digits, hDigits, hTrailing, hChar.symm, rfl⟩
        · cases h
    · cases h
    · cases h
  · rintro ⟨n, digits, hDigits, hTrailing, hChar, rfl⟩
    have hFour : fourDigits (digits ++ rest) = .ok (n, rest) :=
      fourDigits_eq_ok_iff.mpr ⟨digits, hDigits, rfl⟩
    simp only [secondHalf, hFour, hTrailing, if_true, hChar]

/-- The halves of a pair and the character they write. -/
theorem ofPair_eq_iff {c : Char} {high low : Nat} (hHigh : high < 0x400) (hLow : low < 0x400) :
    ofPair (0xD800 + high) (0xDC00 + low) = c ↔ c.toNat = 0x10000 + high * 0x400 + low := by
  have hCode : (0xD800 + high - 0xD800) * 0x400 + (0xDC00 + low - 0xDC00) + 0x10000 =
      0x10000 + high * 0x400 + low := by omega
  -- what a pair writes lies above all halves, so it is the code point of a character
  have hValid : (Char.ofNat (0x10000 + high * 0x400 + low)).toNat =
      0x10000 + high * 0x400 + low := by
    apply toNat_ofNat_of_not_surrogate (by omega)
    · simp only [isLeading, Bool.and_eq_false_iff, decide_eq_false_iff_not]
      omega
    · simp only [isTrailing, Bool.and_eq_false_iff, decide_eq_false_iff_not]
      omega
  rw [ofPair, hCode, ← Char.toNat_inj, hValid]
  exact eq_comm

/-- A character written by its code is read if it is there, in one half or in two. -/
theorem coded_eq_ok_iff {text rest : List Char} {c : Char} :
    coded text = .ok (c, rest) ↔
      ∃ written, CharText c ('\\' :: 'u' :: written) ∧ text = written ++ rest := by
  constructor
  · intro h
    unfold coded at h
    split at h
    · cases h
    · rename_i n more hFour
      obtain ⟨digits, hDigits, rfl⟩ := fourDigits_eq_ok_iff.mp hFour
      split at h
      · cases h
      · rename_i hTrailing
        split at h
        · -- a first half, so a second one follows
          rename_i hLeading
          obtain ⟨m, trailing, hSecond, hm, hChar, rfl⟩ := secondHalf_eq_ok_iff.mp h
          simp only [isLeading, isTrailing, Bool.and_eq_true, decide_eq_true_eq] at hLeading hm
          obtain ⟨high, rfl⟩ := Nat.exists_eq_add_of_le hLeading.1
          obtain ⟨low, rfl⟩ := Nat.exists_eq_add_of_le hm.1
          refine ⟨digits ++ '\\' :: 'u' :: trailing, ?_, by simp⟩
          exact .pair (by omega) (by omega)
            ((ofPair_eq_iff (by omega) (by omega)).mp hChar.symm) hDigits hSecond
        · -- no half of a pair, so the number is the code point of a character
          rename_i hLeading
          cases h
          refine ⟨digits, ?_, rfl⟩
          apply CharText.code
          have hSmall := hDigits.lt
          rw [toNat_ofNat_of_not_surrogate (by omega) (by simpa using hLeading)
            (by simpa using hTrailing)]
          exact hDigits
  · rintro ⟨written, hChar, rfl⟩
    cases hChar with
    | short hShort =>
      -- the letter of a code is no escape of its own
      have hNone : shortEscape? 'u' = none := by decide
      rw [shortEscape?_eq_some_iff.symm, hNone] at hShort
      cases hShort
    | code hDigits =>
      have hFour : fourDigits (written ++ rest) = .ok (c.toNat, rest) :=
        fourDigits_eq_ok_iff.mpr ⟨written, hDigits, rfl⟩
      obtain ⟨hLeading, hTrailing⟩ := toNat_not_surrogate c
      simp only [coded, hFour, hLeading, hTrailing, Bool.false_eq_true, if_false,
        Char.ofNat_toNat]
    | @pair high low leading trailing hHigh hLow hCode hFirst hSecond =>
      have hFour : fourDigits ((leading ++ '\\' :: 'u' :: trailing) ++ rest) =
          .ok (0xD800 + high, '\\' :: 'u' :: (trailing ++ rest)) :=
        fourDigits_eq_ok_iff.mpr ⟨leading, hFirst, by simp⟩
      have hLeading : isLeading (0xD800 + high) = true := by
        simp only [isLeading, Bool.and_eq_true, decide_eq_true_eq]
        omega
      have hNotTrailing : isTrailing (0xD800 + high) = false := by
        simp only [isTrailing, Bool.and_eq_false_iff, decide_eq_false_iff_not]
        omega
      have hTrailing : isTrailing (0xDC00 + low) = true := by
        simp only [isTrailing, Bool.and_eq_true, decide_eq_true_eq]
        omega
      simp only [coded, hFour, hNotTrailing, Bool.false_eq_true, if_false, hLeading, if_true]
      exact secondHalf_eq_ok_iff.mpr ⟨0xDC00 + low, trailing, hSecond, hTrailing,
        ((ofPair_eq_iff hHigh hLow).mpr hCode).symm, rfl⟩

/-- An escape is read if it is there behind the backslash. -/
theorem escaped_eq_ok_iff {text rest : List Char} {c : Char} :
    escaped text = .ok (c, rest) ↔
      ∃ written, CharText c ('\\' :: written) ∧ text = written ++ rest := by
  constructor
  · intro h
    unfold escaped at h
    split at h
    · cases h
    · obtain ⟨written, hChar, rfl⟩ := coded_eq_ok_iff.mp h
      exact ⟨'u' :: written, hChar, rfl⟩
    · rename_i letter more _
      split at h
      · rename_i d hShort
        cases h
        exact ⟨[letter], .short (shortEscape?_eq_some_iff.mp hShort), rfl⟩
      · cases h
  · rintro ⟨written, hChar, rfl⟩
    have hCoded : ∀ digits, written = 'u' :: digits →
        escaped (written ++ rest) = .ok (c, rest) := by
      rintro digits rfl
      exact coded_eq_ok_iff.mpr ⟨digits, hChar, rfl⟩
    cases hChar with
    | plain _ _ hSelf => exact absurd rfl hSelf
    | @short letter hShort =>
      have hEscape := shortEscape?_eq_some_iff.mpr hShort
      have hLetter : letter ≠ 'u' := by
        rintro rfl
        cases hEscape
      rw [List.cons_append, List.nil_append]
      unfold escaped
      split
      · rename_i hEmpty
        cases hEmpty
      · rename_i hCode
        cases hCode
        exact absurd rfl hLetter
      · rename_i hCons
        cases hCons
        rw [hEscape]
    | code hDigits => exact hCoded _ rfl
    | pair hHigh hLow hCode hFirst hSecond => exact hCoded _ rfl

/-- A character that is written in front of others is read in front of them. -/
theorem characters_append {c : Char} {written : List Char} (h : CharText c written)
    (rest : List Char) : characters (written ++ rest) = prepend c (characters rest) := by
  -- whatever stands behind a backslash is read as an escape
  have hEscaped : ∀ behind, written = '\\' :: behind →
      characters (written ++ rest) = prepend c (characters rest) := by
    rintro behind rfl
    have hRead : escaped (behind ++ rest) = .ok (c, rest) :=
      escaped_eq_ok_iff.mpr ⟨behind, h, rfl⟩
    rw [List.cons_append, characters]
    split
    · rename_i problem hError
      rw [hRead] at hError
      cases hError
    · rename_i d more hOk
      rw [hRead] at hOk
      cases hOk
      rfl
  cases h with
  | plain hControl hQuote hSlash =>
    have hNot : ¬ c.toNat < 0x20 := by omega
    rw [List.singleton_append, characters, if_neg hNot]
    · exact hQuote
    · exact hSlash
  | short hShort => exact hEscaped _ rfl
  | code hDigits => exact hEscaped _ rfl
  | pair hHigh hLow hCode hFirst hSecond => exact hEscaped _ rfl

theorem prepend_eq_ok_iff {c : Char} {result : Parsed (List Char)} {chars rest : List Char} :
    prepend c result = .ok (chars, rest) ↔
      ∃ more, chars = c :: more ∧ result = .ok (more, rest) := by
  cases result with
  | error problem => simp only [prepend, reduceCtorEq, and_false, exists_false]
  | ok read =>
    obtain ⟨more, left⟩ := read
    simp only [prepend, Except.ok.injEq, Prod.mk.injEq]
    constructor
    · rintro ⟨rfl, rfl⟩
      exact ⟨more, rfl, rfl, rfl⟩
    · rintro ⟨_, rfl, rfl, rfl⟩
      exact ⟨rfl, rfl⟩

/-- Characters are read up to the quote that ends them. -/
theorem characters_eq_ok_iff {text chars rest : List Char} :
    characters text = .ok (chars, rest) ↔
      ∃ inner, CharsText chars inner ∧ text = inner ++ '"' :: rest := by
  constructor
  · -- by the cases of the scanner: the end, an escape or a plain character, each with its errors
    intro h
    fun_induction characters text generalizing chars with
    | case1 => cases h
    | case2 more =>
      cases h
      exact ⟨[], .nil, rfl⟩
    | case3 more problem hError => cases h
    | case4 more c behind hEscaped ih =>
      obtain ⟨written, hChar, rfl⟩ := escaped_eq_ok_iff.mp hEscaped
      obtain ⟨others, rfl, hMore⟩ := prepend_eq_ok_iff.mp h
      obtain ⟨inner, hInner, rfl⟩ := ih hMore
      exact ⟨'\\' :: written ++ inner, .cons hChar hInner, by simp⟩
    | case5 c more _ _ hControl => cases h
    | case6 c more hQuote hSlash hControl ih =>
      obtain ⟨others, rfl, hMore⟩ := prepend_eq_ok_iff.mp h
      obtain ⟨inner, hInner, rfl⟩ := ih hMore
      exact ⟨[c] ++ inner, .cons (.plain (by omega) hQuote hSlash) hInner, rfl⟩
  · rintro ⟨inner, hChars, rfl⟩
    induction hChars with
    | nil => rw [List.nil_append, characters]
    | cons hFirst hRest ih => rw [List.append_assoc, characters_append hFirst, ih]; rfl

theorem text_eq_ok_iff {chars rest : List Char} {string : String} :
    text chars = .ok (string, rest) ↔
      ∃ inner, CharsText string.toList inner ∧ chars = inner ++ '"' :: rest := by
  rw [← characters_eq_ok_iff, text]
  cases characters chars with
  | error problem => simp only [reduceCtorEq]
  | ok read =>
    simp only [Except.ok.injEq, Prod.ext_iff]
    rw [← String.toList_inj, String.toList_ofList]

/-- A string is read behind its opening quote exactly if the quote begins its text. -/
theorem text_eq_ok_iff_stringText {chars rest : List Char} {string : String} :
    text chars = .ok (string, rest) ↔
      ∃ written, StringText string written ∧ '"' :: chars = written ++ rest := by
  rw [text_eq_ok_iff]
  constructor
  · rintro ⟨inner, hInner, rfl⟩
    exact ⟨_, .quoted hInner, by simp⟩
  · rintro ⟨written, ⟨hInner⟩, hText⟩
    refine ⟨_, hInner, ?_⟩
    simpa using hText

end Outline.Json
