import Mathlib.Data.List.TakeWhile
import Outline.Json.Skip
import Outline.Proofs.Json.Grammar
import Outline.Proofs.Number.Digits

/-!
# Scanners of numbers

Where a number ends can only be told by what follows it. What is read as a number is one;
conversely a number is read if the text after it does not go on as a number does.

- `literal_eq_ok`, `literal_append` — what is read is a number, and every number is read
- `decimal_toDigits`, `toDigits_decimal` — digits and values
-/

namespace Outline.Json

/-! ## §1 Digits -/

/-- The text does not begin with a digit. -/
def NoDigit (rest : List Char) : Prop := ∀ c ∈ rest.head?, c.isDigit = false

/-- The text does not begin as a number could go on. -/
def Stops (rest : List Char) : Prop := ∀ c ∈ rest.head?, c.isDigit = false ∧ c ∉ ['.', 'e', 'E']

theorem Stops.noDigit {rest : List Char} (h : Stops rest) : NoDigit rest :=
  fun c hc => (h c hc).1

theorem stops_cons {c : Char} {rest : List Char} (hDigit : c.isDigit = false)
    (hOther : c ∉ ['.', 'e', 'E']) : Stops (c :: rest) := by
  intro d hd
  cases hd
  exact ⟨hDigit, hOther⟩

/-- Digits are read as far as they go. -/
theorem digits_eq_ok_iff {text read rest : List Char} :
    digits text = .ok (read, rest) ↔ Digits read ∧ NoDigit rest ∧ text = read ++ rest := by
  constructor
  · intro h
    simp only [digits] at h
    split at h
    · cases h
    · rename_i hSome
      cases h
      refine ⟨⟨by simpa using hSome, fun c hc => List.mem_takeWhile_imp hc⟩, ?_,
        List.takeWhile_append_dropWhile.symm⟩
      intro c hc
      have hHead := List.head?_dropWhile_not Char.isDigit text
      rw [hc] at hHead
      simpa using hHead
  · rintro ⟨⟨hSome, hDigits⟩, hRest, rfl⟩
    have hTake : (read ++ rest).takeWhile Char.isDigit = read := by
      rw [List.takeWhile_append_of_pos hDigits]
      cases rest with
      | nil => simp
      | cons c more => simp [hRest c rfl]
    have hDrop : (read ++ rest).dropWhile Char.isDigit = rest := by
      rw [List.dropWhile_append_of_pos hDigits]
      cases rest with
      | nil => rfl
      | cons c more => simp [hRest c rfl]
    have hEmpty : read.isEmpty = false := by simpa using hSome
    simp only [digits, hTake, hDrop, hEmpty, Bool.false_eq_true, if_false]

theorem exponentDigits_eq_ok {negative : Bool} {number read : Literal} {text rest : List Char}
    (h : exponentDigits negative number text = .ok (read, rest)) :
    read.isInteger = false ∧ ∃ written, Digits written ∧ text = written ++ rest := by
  unfold exponentDigits at h
  split at h
  · cases h
  · rename_i written more hDigits
    cases h
    obtain ⟨hWritten, -, hText⟩ := digits_eq_ok_iff.mp hDigits
    exact ⟨rfl, written, hWritten, hText⟩

/-- What is read as an exponent is one, and there is none if the number is an integer. -/
theorem exponentPart_eq_ok {number read : Literal} {text rest : List Char}
    (h : exponentPart number text = .ok (read, rest)) :
    ∃ written, ExponentText written ∧ text = written ++ rest ∧
      (read.isInteger = true → written = [] ∧ read = number) := by
  -- an exponent that is there makes the number no integer
  have hPower : ∀ (letter : Char) (sign more : List Char) (negative : Bool),
      letter ∈ ['e', 'E'] → sign ∈ [[], ['+'], ['-']] → text = letter :: (sign ++ more) →
      exponentDigits negative number more = .ok (read, rest) →
      ∃ written, ExponentText written ∧ text = written ++ rest ∧
        (read.isInteger = true → written = [] ∧ read = number) := by
    intro letter sign more negative hLetter hSign hText hRead
    obtain ⟨hInteger, digits, hDigits, rfl⟩ := exponentDigits_eq_ok hRead
    refine ⟨letter :: (sign ++ digits), .power hLetter hSign hDigits, by simp [hText], ?_⟩
    intro hTrue
    rw [hInteger] at hTrue
    cases hTrue
  -- the letter in either case, with either sign or without one
  unfold exponentPart at h
  split at h
  · exact hPower 'e' ['+'] _ false (by decide) (by decide) rfl h
  · exact hPower 'E' ['+'] _ false (by decide) (by decide) rfl h
  · exact hPower 'e' ['-'] _ true (by decide) (by decide) rfl h
  · exact hPower 'E' ['-'] _ true (by decide) (by decide) rfl h
  · exact hPower 'e' [] _ false (by decide) (by decide) rfl h
  · exact hPower 'E' [] _ false (by decide) (by decide) rfl h
  · cases h
    exact ⟨[], .none, rfl, fun _ => ⟨rfl, rfl⟩⟩

/-- Digits of which no zero stands in front of others are a whole part. -/
theorem wholeText_of_digits {whole : List Char} (h : Digits whole)
    (hZero : ∀ (c : Char) (more : List Char), whole = '0' :: c :: more → False) :
    WholeText whole := by
  refine ⟨h, ?_⟩
  intro hHead
  obtain ⟨more, rfl⟩ := List.head?_eq_some_iff.mp hHead
  cases more with
  | nil => rfl
  | cons c more => exact absurd rfl (hZero c more)

/-- What is read as a number is one, and it is its whole part if it is an integer. -/
theorem literal_eq_ok {number : Literal} {text rest : List Char}
    (h : literal text = .ok (number, rest)) :
    ∃ written, UnsignedText written ∧ text = written ++ rest ∧
      (number.isInteger = true → WholeText number.whole ∧ written = number.whole) := by
  unfold literal at h
  split at h
  · cases h
  · cases h
  · rename_i whole more hZero hDigits
    obtain ⟨hWhole, -, rfl⟩ := digits_eq_ok_iff.mp hDigits
    split at h
    · cases h
    · rename_i fraction behind hFraction
      obtain ⟨hPoint, -, rfl⟩ := digits_eq_ok_iff.mp hFraction
      obtain ⟨exponent, hExponent, rfl, hInteger⟩ := exponentPart_eq_ok h
      refine ⟨whole ++ ('.' :: fraction ++ exponent),
        .parts (wholeText_of_digits hWhole hZero) (.point hPoint) hExponent, by simp, ?_⟩
      -- with a point the number is no integer, whether an exponent follows or not
      intro hTrue
      rw [(hInteger hTrue).2] at hTrue
      cases hTrue
  · rename_i whole more hZero _ hDigits
    obtain ⟨hWhole, -, rfl⟩ := digits_eq_ok_iff.mp hDigits
    obtain ⟨exponent, hExponent, rfl, hInteger⟩ := exponentPart_eq_ok h
    have hText := wholeText_of_digits hWhole hZero
    refine ⟨whole ++ ([] ++ exponent), .parts hText .none hExponent, by simp, ?_⟩
    intro hTrue
    obtain ⟨rfl, rfl⟩ := hInteger hTrue
    exact ⟨hText, by simp⟩

theorem Digits.exists_cons {digits : List Char} (h : Digits digits) :
    ∃ c more, digits = c :: more ∧ c.isDigit = true := by
  obtain ⟨hSome, hDigits⟩ := h
  cases digits with
  | nil => exact absurd rfl hSome
  | cons c more => exact ⟨c, more, rfl, hDigits c (List.mem_cons_self ..)⟩

/-- Every exponent is read if the number stops behind it, and without one the number stays as
    it is. -/
theorem exponentPart_append (number : Literal) {exponent rest : List Char}
    (hExponent : ExponentText exponent) (hStops : Stops rest) :
    ∃ read, exponentPart number (exponent ++ rest) = .ok (read, rest) ∧
      (exponent = [] → read = number) := by
  cases hExponent with
  | none =>
    refine ⟨number, ?_, fun _ => rfl⟩
    rw [List.nil_append, exponentPart]
    -- every other way to read on begins with a letter, which goes on with the number
    all_goals
      rintro more rfl
      exact (hStops _ rfl).2 (by decide)
  | @power letter sign written hLetter hSign hDigits =>
    have hRead : ∀ negative, ∃ read,
        exponentDigits negative number (written ++ rest) = .ok (read, rest) := by
      intro negative
      have hOk := digits_eq_ok_iff.mpr ⟨hDigits, hStops.noDigit, rfl⟩
      simp only [exponentDigits, hOk]
      exact ⟨_, rfl⟩
    simp only [List.mem_cons, List.not_mem_nil, or_false] at hLetter hSign
    rcases hSign with rfl | rfl | rfl
    · -- without a sign, the first digit must not be taken for one
      obtain ⟨c, more, rfl, hc⟩ := hDigits.exists_cons
      have hPlus : c ≠ '+' := by rintro rfl; cases hc
      have hMinus : c ≠ '-' := by rintro rfl; cases hc
      have hUnsigned : exponentPart number (letter :: c :: (more ++ rest)) =
          exponentDigits false number (c :: (more ++ rest)) := by
        rcases hLetter with rfl | rfl <;> simp [exponentPart, hPlus, hMinus]
      obtain ⟨read, hOk⟩ := hRead false
      exact ⟨read, hUnsigned.trans hOk, nofun⟩
    · obtain ⟨read, hOk⟩ := hRead false
      rcases hLetter with rfl | rfl <;> exact ⟨read, hOk, nofun⟩
    · obtain ⟨read, hOk⟩ := hRead true
      rcases hLetter with rfl | rfl <;> exact ⟨read, hOk, nofun⟩

/-- An exponent does not begin with a digit, nor does it go on as a fraction. -/
theorem head?_exponent {exponent rest : List Char} (hExponent : ExponentText exponent)
    (hStops : Stops rest) : ∀ c ∈ (exponent ++ rest).head?, c.isDigit = false ∧ c ≠ '.' := by
  cases hExponent with
  | none =>
    intro c hc
    obtain ⟨hDigit, hOther⟩ := hStops c hc
    refine ⟨hDigit, ?_⟩
    rintro rfl
    exact hOther (by decide)
  | @power letter sign written hLetter hSign hDigits =>
    intro c hc
    cases hc
    simp only [List.mem_cons, List.not_mem_nil, or_false] at hLetter
    rcases hLetter with rfl | rfl <;> decide

/-- A whole part is followed by a fraction if there is a point behind it, and else by an
    exponent, if anything. -/
theorem literal_of_digits {text whole more : List Char} (hWhole : WholeText whole)
    (hDigits : digits text = .ok (whole, more)) :
    ((∀ c ∈ more.head?, c ≠ '.') → literal text = exponentPart { whole } more) ∧
    (∀ places fraction behind, more = '.' :: places → digits places = .ok (fraction, behind) →
      literal text = exponentPart { whole, fraction, isInteger := false } behind) := by
  unfold literal
  split
  · rename_i hError
    rw [hDigits] at hError
    cases hError
  · rename_i hZero
    rw [hDigits] at hZero
    cases hZero
    cases hWhole.2 rfl
  · rename_i hPoint
    rw [hDigits] at hPoint
    cases hPoint
    refine ⟨fun hMore => absurd rfl (hMore '.' rfl), ?_⟩
    rintro _ fraction behind ⟨⟩ hFraction
    rw [hFraction]
  · rename_i hNone hOk
    rw [hDigits] at hOk
    cases hOk
    refine ⟨fun _ => rfl, ?_⟩
    rintro places fraction behind rfl
    exact absurd rfl (hNone places)

/-- A whole part is read as an integer if the number stops behind it. -/
theorem literal_whole {whole rest : List Char} (hWhole : WholeText whole) (hStops : Stops rest) :
    literal (whole ++ rest) = .ok ({ whole }, rest) := by
  have hDigits := digits_eq_ok_iff.mpr ⟨hWhole.1, hStops.noDigit, rfl⟩
  obtain ⟨read, hRead, hSame⟩ := exponentPart_append { whole } .none hStops
  cases hSame rfl
  refine ((literal_of_digits hWhole hDigits).1 ?_).trans hRead
  rintro c hc rfl
  exact (hStops _ hc).2 (by decide)

/-- Every number is read if it stops at its end. -/
theorem literal_append {written rest : List Char} (h : UnsignedText written)
    (hStops : Stops rest) : ∃ number, literal (written ++ rest) = .ok (number, rest) := by
  cases h with
  | @parts whole fraction exponent hWhole hFraction hExponent =>
    have hHead := head?_exponent hExponent hStops
    have hRead : ∀ number, ∃ read, exponentPart number (exponent ++ rest) = .ok (read, rest) := by
      intro number
      obtain ⟨read, hOk, -⟩ := exponentPart_append number hExponent hStops
      exact ⟨read, hOk⟩
    -- the digits of the whole part end at the point, the exponent or the end
    cases hFraction with
    | none =>
      have hDigits : digits (whole ++ ([] ++ exponent) ++ rest) = .ok (whole, exponent ++ rest) :=
        digits_eq_ok_iff.mpr ⟨hWhole.1, fun c hc => (hHead c hc).1, by simp⟩
      rw [(literal_of_digits hWhole hDigits).1 fun c hc => (hHead c hc).2]
      exact hRead _
    | @point places hPlaces =>
      have hDigits : digits (whole ++ ('.' :: places ++ exponent) ++ rest) =
          .ok (whole, '.' :: (places ++ (exponent ++ rest))) := by
        refine digits_eq_ok_iff.mpr ⟨hWhole.1, ?_, by simp⟩
        intro c hc
        cases hc
        decide
      have hFraction := digits_eq_ok_iff.mpr ⟨hPlaces, fun c hc => (hHead c hc).1, rfl⟩
      rw [(literal_of_digits hWhole hDigits).2 _ _ _ rfl hFraction]
      exact hRead _

theorem skipNumber_eq_ok {text rest : List Char} (h : skipNumber text = .ok rest) :
    ∃ written, UnsignedText written ∧ text = written ++ rest := by
  unfold skipNumber at h
  split at h
  · rename_i number more hLiteral
    cases h
    obtain ⟨written, hWritten, hText, -⟩ := literal_eq_ok hLiteral
    exact ⟨written, hWritten, hText⟩
  · cases h

theorem skipNumber_append {written rest : List Char} (h : UnsignedText written)
    (hStops : Stops rest) : skipNumber (written ++ rest) = .ok rest := by
  obtain ⟨number, hLiteral⟩ := literal_append h hStops
  simp only [skipNumber, hLiteral]

/-- The digits of a number are a whole part. -/
theorem wholeText_toDigits (n : Nat) : WholeText (Nat.toDigits 10 n) := by
  refine ⟨⟨Nat.toDigits_ne_nil, Number.isDigit_toDigits n⟩, ?_⟩
  induction n using Nat.strongRecOn with
  | ind n ih =>
    intro hHead
    by_cases hSmall : n < 10
    · rw [Nat.toDigits_of_lt_base hSmall] at hHead ⊢
      simp only [List.head?_cons, Option.some.injEq] at hHead
      rw [hHead]
    · -- then the front part would be a lone zero, but it writes a positive number
      rw [Nat.toDigits_of_base_le (by decide) (by omega)] at hHead
      obtain ⟨c, more, hCons⟩ := List.exists_cons_of_ne_nil (Nat.toDigits_ne_nil (n := n / 10))
      have hFront := ih (n / 10) (by omega) (by rw [hCons] at hHead ⊢; exact hHead)
      have hValue := Nat.ofDigitChars_ten_toDigits (n := n / 10)
      rw [hFront] at hValue
      simp [Nat.ofDigitChars] at hValue
      omega

theorem decimal_toDigits (n : Nat) : decimal (Nat.toDigits 10 n) = n := by
  rw [decimal, Number.natOfDigits?_toDigits, Option.getD_some]

/-- A whole part is the digits of its value. -/
theorem toDigits_decimal {whole : List Char} (h : WholeText whole) :
    Nat.toDigits 10 (decimal whole) = whole := by
  obtain ⟨⟨hSome, hDigits⟩, hZero⟩ := h
  rw [decimal, Number.natOfDigits?_of_isDigit whole hSome hDigits, Option.getD_some]
  exact Number.toDigits_ofDigitChars whole hSome hDigits hZero

end Outline.Json
