import Mathlib
import Outline.Proofs.Number.Digits

/-!
# Numerals

Which texts denote a number, said without reading them: digits of a base, the highest first,
and an optional sign in front of them. The readers of digits accept exactly the numerals.

- `Numeral`, `Signed` — digits that denote a number, and signs in front of them
- `natOfDigits?_eq_some_iff` — the numbers that are read from digits
- `intOfDecimal?_eq_some_iff` — the integers that are read from decimal digits
-/

namespace Outline.Number

/-! ## §1 Digits -/

/-- A character is a digit of a base: a decimal digit or, from ten on, a letter in either
    case. -/
def IsDigit (base value : Nat) (c : Char) : Prop := value < base ∧ c.toLower = value.digitChar

/-- One or more digits of a base that denote a number, the highest first. -/
def Numeral (base n : Nat) (text : List Char) : Prop :=
  text ≠ [] ∧ ∃ digits, List.Forall₂ (IsDigit base) digits text ∧
    n = Nat.ofDigits base digits.reverse

theorem digit?_eq_some_iff {base : Nat} (hBase : base ≤ 16) {c : Char} {value : Nat} :
    digit? base c = some value ↔ IsDigit base value c := by
  have hSixteen := @digit?_sixteen_iff c value
  rw [digit?, Option.filter_eq_some_iff, decide_eq_true_iff] at hSixteen ⊢
  constructor
  · rintro ⟨hValue, hSmall⟩
    exact ⟨hSmall, (hSixteen.mp ⟨hValue, by omega⟩).2⟩
  · rintro ⟨hSmall, hDigit⟩
    exact ⟨(hSixteen.mpr ⟨by omega, hDigit⟩).1, hSmall⟩

/-- Digits behind a number that has been read. -/
theorem natAfter?_eq_some_iff {base : Nat} (hBase : base ≤ 16) {read n : Nat}
    {text : List Char} :
    natAfter? base read text = some n ↔ ∃ digits, List.Forall₂ (IsDigit base) digits text ∧
      n = digits.foldl (fun read digit => read * base + digit) read := by
  induction text generalizing read with
  | nil => simp [natAfter?, eq_comm]
  | cons c rest ih =>
    rw [natAfter?]
    constructor
    · intro h
      split at h
      · rename_i digit hDigit
        obtain ⟨digits, hDigits, rfl⟩ := ih.mp h
        exact ⟨digit :: digits, .cons ((digit?_eq_some_iff hBase).mp hDigit) hDigits, rfl⟩
      · cases h
    · rintro ⟨digits, hDigits, rfl⟩
      obtain ⟨digit, others, hDigit, hOthers, rfl⟩ := List.forall₂_cons_right_iff.mp hDigits
      simp only [(digit?_eq_some_iff hBase).mpr hDigit]
      exact ih.mpr ⟨others, hOthers, rfl⟩

/-- The value of digits from the highest on is their value in the base. -/
theorem foldl_eq_ofDigits (base : Nat) (digits : List Nat) :
    digits.foldl (fun read digit => read * base + digit) 0 = Nat.ofDigits base digits.reverse := by
  rw [Nat.ofDigits_eq_foldr, List.foldr_reverse]
  congr
  funext read digit
  rw [Nat.cast_id, Nat.mul_comm, Nat.add_comm]

/-- A number is read from exactly the numerals that denote it. -/
theorem natOfDigits?_eq_some_iff {base : Nat} (hBase : base ≤ 16) {n : Nat} {text : List Char} :
    natOfDigits? base text = some n ↔ Numeral base n text := by
  rw [natOfDigits?, Option.ite_none_left_eq_some, natAfter?_eq_some_iff hBase, Numeral]
  simp only [List.isEmpty_iff, foldl_eq_ofDigits]

/-! ## §2 Characters of numerals -/

/-- Digits below ten are decimal digits, and the others are letters. -/
theorem IsDigit.isDigit_or_isAlpha {base value : Nat} (hBase : base ≤ 16) {c : Char}
    (h : IsDigit base value c) : c.isDigit = true ∨ 10 ≤ value ∧ c.isAlpha = true := by
  have hDigit := (digit?_eq_some_iff hBase).mpr h
  rw [digit?, Option.filter_eq_some_iff] at hDigit
  obtain ⟨hValue, -⟩ := hDigit
  split at hValue
  · exact .inl ‹_›
  split at hValue
  · rename_i hLetter
    have hLower : c.isLower = true := by simpa [Char.isLower, Char.le_def] using hLetter
    cases hValue
    exact .inr ⟨by omega, by simp [Char.isAlpha, hLower]⟩
  split at hValue
  · rename_i hLetter
    have hUpper : c.isUpper = true := by simpa [Char.isUpper, Char.le_def] using hLetter
    cases hValue
    exact .inr ⟨by omega, by simp [Char.isAlpha, hUpper]⟩
  · cases hValue

/-- The characters of a numeral are digits. -/
theorem Numeral.exists_isDigit {base n : Nat} {text : List Char} (h : Numeral base n text) :
    ∀ c ∈ text, ∃ value, IsDigit base value c := by
  obtain ⟨-, digits, hDigits, -⟩ := h
  induction hDigits with
  | nil => simp
  | cons hDigit _ ih =>
    rw [List.forall_mem_cons]
    exact ⟨⟨_, hDigit⟩, ih⟩

theorem Numeral.isAlphanum {base n : Nat} (hBase : base ≤ 16) {text : List Char}
    (h : Numeral base n text) : ∀ c ∈ text, c.isAlphanum = true := by
  intro c hc
  obtain ⟨value, hDigit⟩ := h.exists_isDigit c hc
  rcases hDigit.isDigit_or_isAlpha hBase with hDecimal | ⟨-, hLetter⟩
  · simp [Char.isAlphanum, hDecimal]
  · simp [Char.isAlphanum, hLetter]

/-- The digits of base ten are the decimal digits. -/
theorem Numeral.isDigit {n : Nat} {text : List Char} (h : Numeral 10 n text) :
    ∀ c ∈ text, c.isDigit = true := by
  intro c hc
  obtain ⟨value, hDigit⟩ := h.exists_isDigit c hc
  rcases hDigit.isDigit_or_isAlpha (by decide) with hDecimal | ⟨hLarge, -⟩
  · exact hDecimal
  · exact absurd hDigit.1 (Nat.not_lt.mpr hLarge)

/-! ## §3 Signs -/

/-- An optional sign in front of what denotes a number. -/
inductive Signed (Unsigned : Nat → List Char → Prop) : Int → List Char → Prop where
  | bare {n : Nat} {text : List Char} : Unsigned n text → Signed Unsigned n text
  | plus {n : Nat} {text : List Char} : Unsigned n text → Signed Unsigned n ('+' :: text)
  | minus {n : Nat} {text : List Char} : Unsigned n text → Signed Unsigned (-n) ('-' :: text)

theorem Signed.ne_nil {Unsigned : Nat → List Char → Prop} {n : Int} {text : List Char}
    (h : Signed Unsigned n text) (hUnsigned : ∀ m digits, Unsigned m digits → digits ≠ []) :
    text ≠ [] := by
  cases h with
  | bare hDigits => exact hUnsigned _ _ hDigits
  | plus | minus => exact List.cons_ne_nil _ _

/-- The characters of a text with an optional sign are signs and those of what it denotes. -/
theorem Signed.forall_mem {Unsigned : Nat → List Char → Prop} {n : Int} {text : List Char}
    (h : Signed Unsigned n text) {p : Char → Prop} (hPlus : p '+') (hMinus : p '-')
    (hUnsigned : ∀ m digits, Unsigned m digits → ∀ c ∈ digits, p c) : ∀ c ∈ text, p c := by
  cases h with
  | bare hDigits => exact hUnsigned _ _ hDigits
  | plus hDigits => exact List.forall_mem_cons.mpr ⟨hPlus, hUnsigned _ _ hDigits⟩
  | minus hDigits => exact List.forall_mem_cons.mpr ⟨hMinus, hUnsigned _ _ hDigits⟩

/-- An integer is read from exactly the decimal numerals, with or without a sign, that denote
    it. -/
theorem intOfDecimal?_eq_some_iff {n : Int} {text : List Char} :
    intOfDecimal? text = some n ↔ Signed (Numeral 10) n text := by
  have hRead {m : Nat} {digits : List Char} :
      natOfDigits? 10 digits = some m ↔ Numeral 10 m digits := natOfDigits?_eq_some_iff (by decide)
  constructor
  · -- behind each of the three beginnings stand the digits of a number
    have hDigits {digits : List Char} {f : Int → Int}
        (h : Option.map f (do let m ← natOfDigits? 10 digits; pure (m : Int)) = some n) :
        ∃ m : Nat, Numeral 10 m digits ∧ f m = n := by
      cases hm : natOfDigits? 10 digits with
      | none =>
        rw [hm] at h
        cases h
      | some m =>
        rw [hm] at h
        cases h
        exact ⟨m, hRead.mp hm, rfl⟩
    intro h
    unfold intOfDecimal? at h
    split at h <;> obtain ⟨m, hm, rfl⟩ := hDigits h
    · exact .minus hm
    · exact .plus hm
    · exact .bare hm
  · intro h
    cases h with
    | bare hDigits =>
      rw [intOfDecimal?_of_isDigit _ hDigits.isDigit, hRead.mpr hDigits]
      rfl
    | plus hDigits => simp [intOfDecimal?, hRead.mpr hDigits]
    | minus hDigits => simp [intOfDecimal?, hRead.mpr hDigits]

end Outline.Number
