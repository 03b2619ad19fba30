import Outline.Proofs.Number.Numerals
import Outline.Record.Basic

/-!
# Integers written as texts

The value of an integer entry may be a text: decimal digits with an optional sign, and blanks
around them. Blanks are all characters with the property White_Space, while only the ASCII
digits count as digits.

- `Text.trim_append`, `Text.exists_trim` — what trimming leaves
- `IntegerText` — texts that denote an integer
- `integerOfText?_eq_some_iff` — the integers of 64 bits that are read from texts
-/

namespace Outline

/-! ## §1 Blanks -/

namespace Text

/-- Any number of blank characters. -/
def Blanks (text : List Char) : Prop := ∀ c ∈ text, isBlank c = true

/-- Letters, digits and signs are not blank. -/
theorem isBlank_of_isAlphanum {c : Char} (h : c.isAlphanum = true) : isBlank c = false := by
  simp only [Char.isAlphanum, Char.isAlpha, Char.isUpper, Char.isLower, Char.isDigit,
    Bool.or_eq_true, Bool.and_eq_true, decide_eq_true_eq, UInt32.le_iff_toNat_le, ge_iff_le] at h
  have hc : c.toNat = c.val.toNat := rfl
  have hA : 'A'.val.toNat = 65 := rfl
  have hZ : 'Z'.val.toNat = 90 := rfl
  have ha : 'a'.val.toNat = 97 := rfl
  have hz : 'z'.val.toNat = 122 := rfl
  have h0 : '0'.val.toNat = 48 := rfl
  have h9 : '9'.val.toNat = 57 := rfl
  rw [Bool.eq_false_iff]
  intro hBlank
  simp only [isBlank, Bool.or_eq_true, Bool.and_eq_true, decide_eq_true_eq, beq_iff_eq] at hBlank
  omega

theorem dropWhile_append_of_blanks {blanks text : List Char} (hBlanks : Blanks blanks)
    (hText : ∀ c ∈ text.head?, isBlank c = false) :
    (blanks ++ text).dropWhile isBlank = text := by
  rw [List.dropWhile_append_of_pos hBlanks]
  cases text with
  | nil => rfl
  | cons c rest => rw [List.dropWhile_cons, hText c rfl, if_neg Bool.false_ne_true]

/-- Trimming takes away the blanks around a text that has none inside. -/
theorem trim_append {before text after : List Char} (hBefore : Blanks before) (hSome : text ≠ [])
    (hText : ∀ c ∈ text, isBlank c = false) (hAfter : Blanks after) :
    trim (before ++ (text ++ after)) = text := by
  have hFirst : ∀ c ∈ (text ++ after).head?, isBlank c = false := by
    intro c hc
    rw [List.head?_append_of_ne_nil _ hSome] at hc
    exact hText c (List.mem_of_mem_head? hc)
  have hLast : ∀ c ∈ text.reverse.head?, isBlank c = false := by
    intro c hc
    exact hText c (List.mem_reverse.mp (List.mem_of_mem_head? hc))
  have hBehind : Blanks after.reverse := fun c hc => hAfter c (List.mem_reverse.mp hc)
  rw [trim, dropWhile_append_of_blanks hBefore hFirst, trimEnd, List.reverse_append,
    dropWhile_append_of_blanks hBehind hLast, List.reverse_reverse]

/-- Trimming leaves a text without blanks as it is. -/
theorem trim_eq_self {text : List Char} (h : ∀ c ∈ text, isBlank c = false) :
    trim text = text := by
  have hNone : Blanks [] := by simp [Blanks]
  by_cases hSome : text = []
  · rw [hSome]
    rfl
  · simpa using trim_append hNone hSome h hNone

/-- A text is what trimming leaves of it, with blanks around. -/
theorem exists_trim (text : List Char) :
    ∃ before after, Blanks before ∧ Blanks after ∧ text = before ++ (trim text ++ after) := by
  have hEnd (text : List Char) :
      text = trimEnd text ++ (text.reverse.takeWhile isBlank).reverse := by
    rw [trimEnd, ← List.reverse_append, List.takeWhile_append_dropWhile, List.reverse_reverse]
  refine ⟨text.takeWhile isBlank, ((text.dropWhile isBlank).reverse.takeWhile isBlank).reverse,
    fun _ => List.mem_takeWhile_imp,
    fun _ hc => List.mem_takeWhile_imp (List.mem_reverse.mp hc), ?_⟩
  rw [trim, ← hEnd, List.takeWhile_append_dropWhile]

end Text

/-! ## §2 Integers -/

/-- Decimal digits with an optional sign, and blanks around them, that denote an integer. -/
inductive IntegerText (n : Int) : List Char → Prop where
  | padded {before text after : List Char} :
      Text.Blanks before → Number.Signed (Number.Numeral 10) n text → Text.Blanks after →
      IntegerText n (before ++ (text ++ after))

/-- No blanks are needed. -/
theorem integerText_of_signed {n : Int} {text : List Char}
    (h : Number.Signed (Number.Numeral 10) n text) : IntegerText n text := by
  have hNone : Text.Blanks [] := by simp [Text.Blanks]
  have hText := IntegerText.padded hNone h hNone
  rwa [List.nil_append, List.append_nil] at hText

/-- Numerals have no blanks inside. -/
theorem Number.Numeral.isBlank_eq_false {base n : Nat} (hBase : base ≤ 16) {text : List Char}
    (h : Numeral base n text) : ∀ c ∈ text, Text.isBlank c = false :=
  fun c hc => Text.isBlank_of_isAlphanum (h.isAlphanum hBase c hc)

/-- A text denotes an integer exactly if a decimal numeral with an optional sign is left when it
    is trimmed. -/
theorem integerText_iff {n : Int} {text : List Char} :
    IntegerText n text ↔ Number.Signed (Number.Numeral 10) n (Text.trim text) := by
  constructor
  · intro h
    cases h with
    | padded hBefore hDigits hAfter =>
      have hSome := hDigits.ne_nil fun _ _ h => h.1
      have hText := hDigits.forall_mem (p := fun c => Text.isBlank c = false) (by decide)
        (by decide) fun _ _ => Number.Numeral.isBlank_eq_false (by decide)
      rwa [Text.trim_append hBefore hSome hText hAfter]
  · intro h
    obtain ⟨before, after, hBefore, hAfter, hText⟩ := Text.exists_trim text
    rw [hText]
    exact .padded hBefore h hAfter

/-- An integer of 64 bits is read from exactly the texts that denote it. -/
theorem integerOfText?_eq_some_iff {text : String} {value : Int64} :
    integerOfText? text = some value ↔ IntegerText value.toInt text.toList := by
  rw [integerText_iff, ← Number.intOfDecimal?_eq_some_iff, integerOfText?, Number.int64OfDecimal?,
    Option.bind_eq_some_iff]
  simp only [Number.int64OfInt?_eq_some_iff, exists_eq_right]

end Outline
