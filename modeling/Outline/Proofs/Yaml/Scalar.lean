import Outline.Json.Printer
import Outline.Proofs.Json.Number
import Outline.Yaml.Plain
import Outline.Yaml.Quoted
import Outline.Yaml.Scalar

/-!
# Printed scalars

Strings and integers are printed by the rules of one format and read here by those of another.
A string keeps its text, provided that it has none of the characters that documents refuse or
take for line breaks. An integer ends before a mark of its collection and stands for itself.

- `Quotable` — texts that strings keep
- `doubleQuoted_escape` — the text of a printed string
- `plain_integer` — the text of a printed integer
- `resolvePlain_integer` — what that text stands for
-/

namespace Outline.Yaml

/-! ## §1 Characters -/

/-- The characters that a document refuses or takes for a line break, and the byte order mark,
    other than those that are escaped where they are printed. -/
def isSpecial (c : Char) : Bool :=
  (0x7F ≤ c.toNat && c.toNat ≤ 0x9F) || [0x2028, 0x2029, 0xFEFF, 0xFFFE, 0xFFFF].contains c.toNat

theorem isSpecial_eq_false_iff {c : Char} :
    isSpecial c = false ↔ ¬(0x7F ≤ c.toNat ∧ c.toNat ≤ 0x9F) ∧ c.toNat ≠ 0x2028 ∧
      c.toNat ≠ 0x2029 ∧ c.toNat ≠ 0xFEFF ∧ c.toNat ≠ 0xFFFE ∧ c.toNat ≠ 0xFFFF := by
  simp [isSpecial]

/-- A text without such characters. -/
def Quotable (text : String) : Prop := ∀ c ∈ text.toList, isSpecial c = false

instance (text : String) : Decidable (Quotable text) :=
  decidable_of_iff (text.toList.all (fun c => !isSpecial c) = true) (by simp [Quotable])

/-- A character is printed as an escape that stands for it, or as it is. -/
theorem escape_cases (c : Char) :
    (c.toNat < 0x7F ∧ ∃ d more, Json.escape c = '\\' :: d :: more ∧ isBreak d = false ∧
      ∀ rest, escape? (d :: (more ++ rest)) = some (c, rest)) ∨
    (Json.escape c = [c] ∧ c ≠ '"' ∧ c ≠ '\\' ∧ 0x20 ≤ c.toNat) := by
  unfold Json.escape
  split
  · rename_i hQuote
    rw [beq_iff_eq.mp hQuote]
    exact .inl ⟨by decide, '"', [], rfl, rfl, fun _ => rfl⟩
  rename_i hQuote
  split
  · rename_i hSlash
    rw [beq_iff_eq.mp hSlash]
    exact .inl ⟨by decide, '\\', [], rfl, rfl, fun _ => rfl⟩
  rename_i hSlash
  split
  · rename_i hBackspace
    obtain rfl : c = '\x08' := Char.toNat_inj.mp (beq_iff_eq.mp hBackspace)
    exact .inl ⟨by decide, 'b', [], rfl, rfl, fun _ => rfl⟩
  split
  · rename_i hTab
    rw [beq_iff_eq.mp hTab]
    exact .inl ⟨by decide, 't', [], rfl, rfl, fun _ => rfl⟩
  split
  · rename_i hLine
    rw [beq_iff_eq.mp hLine]
    exact .inl ⟨by decide, 'n', [], rfl, rfl, fun _ => rfl⟩
  split
  · rename_i hPage
    obtain rfl : c = '\x0C' := Char.toNat_inj.mp (beq_iff_eq.mp hPage)
    exact .inl ⟨by decide, 'f', [], rfl, rfl, fun _ => rfl⟩
  split
  · rename_i hReturn
    rw [beq_iff_eq.mp hReturn]
    exact .inl ⟨by decide, 'r', [], rfl, rfl, fun _ => rfl⟩
  split
  · rename_i hControl
    have hCodes : ∀ n < 0x20, coded? (Json.fourHex n) 4 = some (Char.ofNat n) := by decide
    have hCode := hCodes c.toNat hControl
    rw [Char.ofNat_toNat] at hCode
    refine .inl ⟨by omega, 'u', Json.fourHex c.toNat, rfl, rfl, fun rest => ?_⟩
    show (coded? (Json.fourHex c.toNat) 4).map (·, rest) = some (c, rest)
    rw [hCode]
    rfl
  · rename_i hPlain
    exact .inr ⟨rfl, by simpa using hQuote, by simpa using hSlash, by omega⟩

/-! ## §2 Strings -/

/-- A character that is printed as it is and is no space belongs to a word. -/
theorem isGap_of_not_special {c : Char} (h : isSpecial c = false) (hSpace : 0x20 ≤ c.toNat)
    (hBlank : c ≠ ' ') : isGap c = false := by
  have hControl {d : Char} (hd : d.toNat < 0x20) : c ≠ d := by
    rintro rfl
    omega
  obtain ⟨hRange, hLine, hParagraph, -⟩ := isSpecial_eq_false_iff.mp h
  have hNext : c.toNat ≠ 0x85 := by omega
  have hTab := hControl (d := '\t') (by decide)
  have hFeed := hControl (d := '\n') (by decide)
  have hReturn := hControl (d := '\r') (by decide)
  simp [isGap, isBlank, isBreak, hBlank, hTab, hFeed, hReturn, hNext, hLine, hParagraph]

theorem doubleQuoted_quote (gap : Folding) (rest : List Char) :
    doubleQuoted false gap ('"' :: rest) = some (gap.text, rest) := by
  rw [doubleQuoted.eq_def]
  simp [isBlank, isBreak]

theorem doubleQuoted_space (gap : Folding) (rest : List Char) :
    doubleQuoted false gap (' ' :: rest) = doubleQuoted false (gap.addBlank ' ') rest := by
  rw [doubleQuoted.eq_def]
  simp [isBlank]

theorem doubleQuoted_escaped (gap : Folding) {d e : Char} {more rest : List Char}
    (hBreak : isBreak d = false) (hEscape : escape? (d :: more) = some (e, rest)) :
    doubleQuoted false gap ('\\' :: d :: more) =
      before (gap.text ++ [e]) (doubleQuoted false {} rest) := by
  have hFirst : isBlank '\\' = false ∧ isBreak '\\' = false := by decide
  rw [doubleQuoted.eq_def]
  simp only [hFirst, Bool.false_eq_true, if_false, Bool.false_and, if_true, hBreak, Char.reduceEq]
  split
  · rename_i hNone
    rw [hEscape] at hNone
    cases hNone
  · rename_i hSome
    rw [hEscape] at hSome
    cases hSome
    rfl

theorem doubleQuoted_raw (gap : Folding) {c : Char} (rest : List Char) (hGap : isGap c = false)
    (hQuote : c ≠ '"') (hSlash : c ≠ '\\') :
    doubleQuoted false gap (c :: rest) =
      before (gap.text ++ [c]) (doubleQuoted false {} rest) := by
  rw [isGap, Bool.or_eq_false_iff] at hGap
  rw [doubleQuoted.eq_def]
  simp [hGap, hQuote, hSlash]

/-- A printed text is read back behind blanks, up to the quote. -/
theorem doubleQuoted_escape (blanks : List Char) {text : List Char}
    (h : ∀ c ∈ text, isSpecial c = false) (rest : List Char) :
    doubleQuoted false { blanks } (text.flatMap Json.escape ++ '"' :: rest) =
      some (blanks ++ text, rest) := by
  induction text generalizing blanks with
  | nil => simp [doubleQuoted_quote, Folding.text]
  | cons c more ih =>
    rw [List.forall_mem_cons] at h
    rw [List.flatMap_cons, List.append_assoc]
    have hMore := ih [] h.2
    -- a space waits for the next word; everything else ends the blanks before it
    rcases escape_cases c with
      ⟨-, d, code, hEscape, hBreak, hCode⟩ | ⟨hEscape, hQuote, hSlash, hSpace⟩
    · rw [hEscape, List.cons_append, List.cons_append, doubleQuoted_escaped _ hBreak (hCode _),
        hMore]
      simp [before, Folding.text]
    · rw [hEscape, List.singleton_append]
      by_cases hBlank : c = ' '
      · subst hBlank
        rw [doubleQuoted_space]
        have hBlanks := ih (blanks ++ [' ']) h.2
        rw [List.append_assoc] at hBlanks
        exact hBlanks
      · rw [doubleQuoted_raw _ _ (isGap_of_not_special h.1 hSpace hBlank) hQuote hSlash, hMore]
        simp [before, Folding.text]

/-- What is printed for a character is allowed in documents and stays in its line. -/
theorem allowed_of_mem_escape {c d : Char} (h : isSpecial c = false) (hd : d ∈ Json.escape c) :
    isAllowed d = true ∧ isBreak d = false := by
  have hAscii : ∀ n < 0x7F, (Json.escape (Char.ofNat n)).all
      (fun d => isAllowed d && !isBreak d) = true := by decide +kernel
  by_cases hSmall : c.toNat < 0x7F
  · have hTable := hAscii c.toNat hSmall
    rw [Char.ofNat_toNat, List.all_eq_true] at hTable
    simpa using hTable d hd
  · obtain ⟨hCode, -⟩ | ⟨hEscape, -, -, hSpace⟩ := escape_cases c
    · exact absurd hCode hSmall
    rw [hEscape, List.mem_singleton] at hd
    subst hd
    have hGap := isGap_of_not_special h hSpace (by rintro rfl; exact hSmall (by decide))
    rw [isGap, Bool.or_eq_false_iff] at hGap
    refine ⟨?_, hGap.2⟩
    obtain ⟨hRange, -, -, -, hFirst, hSecond⟩ := isSpecial_eq_false_iff.mp h
    simp only [isAllowed, Bool.or_eq_true, Bool.and_eq_true, decide_eq_true_eq]
    omega

/-- A printed string is allowed in documents and stays in its line. -/
theorem allowed_of_mem_string {text : String} (h : Quotable text) {c : Char}
    (hc : c ∈ Json.string text) : isAllowed c = true ∧ isBreak c = false := by
  have hQuote : isAllowed '"' = true ∧ isBreak '"' = false := by decide
  simp only [Json.string, List.mem_cons, List.mem_append, List.mem_flatMap, List.not_mem_nil,
    or_false] at hc
  rcases hc with rfl | ⟨d, hd, hc⟩ | rfl
  · exact hQuote
  · exact allowed_of_mem_escape (h d hd) hc
  · exact hQuote

/-! ## §3 Integers -/

/-- The two characters that printed text has between its parts. -/
def isSpacing (c : Char) : Bool := c == ' ' || c == '\n'

theorem isSpacing_of_not_isGap {c : Char} (h : isGap c = false) : isSpacing c = false := by
  simp only [isGap, isBlank, isBreak, Bool.or_eq_false_iff] at h
  simp [isSpacing, h]

/-- A mark of a collection stands behind spacing. -/
def EndsPlain (text : List Char) : Prop :=
  ∃ mark rest, text.dropWhile isSpacing = mark :: rest ∧ isFlowMark mark = true

/-- Only a carriage return takes part of what follows it. -/
theorem afterBreak_lineFeed (rest : List Char) : afterBreak '\n' rest = rest := by
  unfold afterBreak
  split <;> rfl

/-- The marks of collections are no other kind of character. -/
theorem isFlowMark_cases {c : Char} (h : isFlowMark c = true) :
    isGap c = false ∧ c ≠ '#' ∧ c ≠ ':' ∧ ∀ rest, isDocumentMark (c :: rest) = false := by
  simp only [isFlowMark, Bool.or_eq_true, beq_iff_eq] at h
  rcases h with (((rfl | rfl) | rfl) | rfl) | rfl <;>
    exact ⟨by decide, by decide, by decide, fun _ => rfl⟩

/-- A plain scalar in a collection ends before a mark, and the spacing in front of it is a gap. -/
theorem plain_of_endsPlain {text : List Char} (h : EndsPlain text) (indent column : Nat)
    (isFresh : Bool) (gap : Folding) :
    ∃ last, plain true indent column isFresh gap text =
      some ([], last, text.dropWhile isSpacing) := by
  obtain ⟨mark, rest, hText, hMark⟩ := h
  induction text generalizing column isFresh gap with
  | nil => cases hText
  | cons c more ih =>
    rw [plain.eq_def]
    by_cases hBlank : c = ' '
    · subst hBlank
      obtain ⟨last, hLast⟩ := ih (column + 1) true (gap.addBlank ' ') hText
      refine ⟨last, ?_⟩
      simpa [isBlank, List.dropWhile_cons, isSpacing] using hLast
    by_cases hBreak : c = '\n'
    · subst hBreak
      obtain ⟨last, hLast⟩ := ih 0 true (gap.addBreak '\n') hText
      refine ⟨last, ?_⟩
      simpa [isBlank, isBreak, afterBreak_lineFeed, List.dropWhile_cons, isSpacing] using hLast
    · have hHere : c = mark ∧ more = rest := by
        simpa [isSpacing, hBlank, hBreak] using hText
      obtain ⟨rfl, rfl⟩ := hHere
      obtain ⟨hGap, hComment, hColon, hDocument⟩ := isFlowMark_cases hMark
      rw [isGap, Bool.or_eq_false_iff] at hGap
      exact ⟨gap, by simp [hGap, hComment, hColon, hDocument, hMark, hText, isColonBeforeMark]⟩

/-- A character that belongs to a plain scalar in a collection. -/
structure IsWordChar (c : Char) : Prop where
  gap : isGap c = false
  colon : c ≠ ':'
  mark : isFlowMark c = false

/-- A word in a collection is a plain scalar. -/
theorem plain_word {word text : List Char} (hWord : ∀ c ∈ word, IsWordChar c)
    (hText : EndsPlain text) (indent column : Nat) :
    ∃ last, plain true indent column false {} (word ++ text) =
      some (word, last, text.dropWhile isSpacing) := by
  induction word generalizing column with
  | nil => exact plain_of_endsPlain hText indent column false {}
  | cons c more ih =>
    rw [List.forall_mem_cons] at hWord
    obtain ⟨⟨hGap, hColon, hMark⟩, hMore⟩ := hWord
    rw [isGap, Bool.or_eq_false_iff] at hGap
    obtain ⟨last, hLast⟩ := ih hMore (column + 1)
    refine ⟨last, ?_⟩
    rw [List.cons_append, plain.eq_def]
    simp [hGap, hColon, hMark, isColonBeforeMark, Folding.text, hLast, before]

/-- The decimal digits. -/
def digitChars : List Char := (List.range 10).map Nat.digitChar

theorem mem_digitChars {c : Char} (h : c.isDigit = true) : c ∈ digitChars := by
  rw [← Number.digitChar_of_isDigit h]
  exact List.mem_map.mpr ⟨_, List.mem_range.mpr (Number.toNat_lt_of_isDigit h), rfl⟩

/-- The characters that integers are written with. -/
def integerChars : List Char := '-' :: digitChars

theorem mem_integerChars {value : Int} {c : Char} (h : c ∈ (toString value).toList) :
    c ∈ integerChars := by
  have hDigit (hc : c.isDigit = true) : c ∈ integerChars :=
    List.mem_cons_of_mem _ (mem_digitChars hc)
  rw [Number.toList_toString_int] at h
  split at h
  · exact hDigit (Number.isDigit_toDigits _ c h)
  · rcases List.mem_cons.mp h with rfl | h
    · exact List.mem_cons_self ..
    · exact hDigit (Number.isDigit_toDigits _ c h)

/-- An integer begins with a digit, or with a minus sign and a digit. -/
theorem toString_int_cons (value : Int) :
    ∃ c rest, (toString value).toList = c :: rest ∧
      (c.isDigit = true ∨ c = '-' ∧ ∃ d more, rest = d :: more ∧ d.isDigit = true) := by
  obtain ⟨d, more, hCons⟩ :=
    List.exists_cons_of_ne_nil (Nat.toDigits_ne_nil (b := 10) (n := value.natAbs))
  have hDigit : d.isDigit = true := Number.isDigit_toDigits value.natAbs d (by simp [hCons])
  rw [Number.toList_toString_int, hCons]
  split
  · exact ⟨d, more, rfl, .inl hDigit⟩
  · exact ⟨'-', d :: more, rfl, .inr ⟨rfl, d, more, rfl, hDigit⟩⟩

/-- An integer in a collection is a plain scalar. -/
theorem plain_integer (value : Int) {text : List Char} (h : EndsPlain text) (indent column : Nat) :
    ∃ last, plain true indent column false {} ((toString value).toList ++ text) =
      some ((toString value).toList, last, text.dropWhile isSpacing) := by
  have hChars : integerChars.all
      (fun c => !isGap c && c != ':' && !isFlowMark c) = true := by decide
  refine plain_word (fun c hc => ?_) h indent column
  have hChar := List.all_eq_true.mp hChars c (mem_integerChars hc)
  simp only [Bool.and_eq_true, Bool.not_eq_true', bne_iff_ne] at hChar
  exact ⟨hChar.1.1, hChar.1.2, hChar.2⟩

/-- The digits of a number have no superfluous zero. -/
theorem hasExtraZero_toDigits (n : Nat) : hasExtraZero (Nat.toDigits 10 n) = false := by
  have hDigits := Number.isDigit_toDigits n
  have hUnsigned : unsigned (Nat.toDigits 10 n) = Nat.toDigits 10 n := by
    unfold unsigned
    split
    · rename_i rest hSign
      exact absurd (hDigits '+' (by simp [hSign])) (by decide)
    · rename_i rest hSign
      exact absurd (hDigits '-' (by simp [hSign])) (by decide)
    · rfl
  rw [hasExtraZero, hUnsigned]
  split
  · rename_i c rest hZero
    have hAlone := (Json.wholeText_toDigits n).2 (by simp [hZero])
    rw [hZero] at hAlone
    cases hAlone
  · rfl

/-- The digits of a number are its size, without a mark for another base. -/
theorem size?_toDigits (n : Nat) : size? (Nat.toDigits 10 n) = some n := by
  have hDigits := Number.isDigit_toDigits n
  have hBase {c : Char} {rest : List Char} (h : Nat.toDigits 10 n = '0' :: c :: rest) :
      c.isDigit = true := hDigits c (by simp [h])
  unfold size?
  split
  · rename_i h
    exact absurd (hBase h) (by decide)
  · rename_i h
    exact absurd (hBase h) (by decide)
  · rename_i h
    exact absurd (hBase h) (by decide)
  · rw [hasExtraZero_toDigits, if_neg Bool.false_ne_true, Number.natOfDigits?_toDigits]

/-- Without a sign in front the digits of a number look like that number. -/
theorem integer?_toDigits {n : Nat} (h : n < Nat.pow 2 64) :
    integer? (Nat.toDigits 10 n) = some (.integer n) := by
  have hSize := size?_toDigits n
  have hDigits := Number.isDigit_toDigits n
  cases hCons : Nat.toDigits 10 n with
  | nil => exact absurd hCons Nat.toDigits_ne_nil
  | cons c rest =>
    rw [hCons, List.forall_mem_cons] at hDigits
    rw [hCons] at hSize
    have hMinus : c ≠ '-' := by
      rintro rfl
      exact absurd hDigits.1 (by decide)
    have hPlus : c ≠ '+' := by
      rintro rfl
      exact absurd hDigits.1 (by decide)
    unfold integer?
    split
    · rename_i hSame
      exact absurd (List.cons.inj hSame).1 hMinus
    · simp [hPlus, hSize, h]

/-- The text of an integer of 64 bits looks like that integer. -/
theorem integer?_toString (value : Int64) :
    integer? (toString value.toInt).toList = some (.integer value.toInt) := by
  have hLow := value.le_toInt
  have hHigh := value.toInt_lt
  rw [Number.toList_toString_int]
  split
  · have hSmall : value.toInt.natAbs < Nat.pow 2 64 := by
      have hPower : Nat.pow 2 64 = 18446744073709551616 := rfl
      omega
    rw [integer?_toDigits hSmall, Int.natAbs_of_nonneg ‹_›]
  · have hSmall : value.toInt.natAbs ≤ Nat.pow 2 63 := by
      have hPower : Nat.pow 2 63 = 9223372036854775808 := rfl
      omega
    have hValue : -(value.toInt.natAbs : Int) = value.toInt := by omega
    simp only [integer?, size?_toDigits, if_pos hSmall, hValue]

/-- The text of an integer is no word with other characters. -/
theorem contains_toString_int (value : Int) {words : List String}
    (h : ∀ word ∈ words, word.toList.all integerChars.contains = false) :
    words.contains (toString value) = false := by
  rw [List.contains_eq_mem, decide_eq_false_iff_not]
  intro hMem
  have hOther := h _ hMem
  rw [List.all_eq_false] at hOther
  obtain ⟨c, hc, hNot⟩ := hOther
  exact hNot (by simpa using mem_integerChars hc)

theorem isNullWord_toString_int (value : Int) : isNullWord (toString value) = false :=
  contains_toString_int value (by decide)

theorem isEmpty_toString_int (value : Int) : (toString value).isEmpty = false := by
  rw [String.isEmpty_eq_false_iff]
  intro hEmpty
  obtain ⟨c, rest, hCons, -⟩ := toString_int_cons value
  rw [hEmpty] at hCons
  cases hCons

/-- Integers of 64 bits stand for themselves. -/
theorem resolvePlain_integer (value : Int64) :
    resolvePlain (toString value.toInt) = .integer value.toInt := by
  have hTrue : ["true", "True", "TRUE"].contains (toString value.toInt) = false :=
    contains_toString_int value.toInt (by decide)
  have hFalse : ["false", "False", "FALSE"].contains (toString value.toInt) = false :=
    contains_toString_int value.toInt (by decide)
  simp only [resolvePlain, isEmpty_toString_int, isNullWord_toString_int, boolean?, hTrue, hFalse,
    Bool.or_self, Bool.false_eq_true, if_false, integer?_toString]

end Outline.Yaml
