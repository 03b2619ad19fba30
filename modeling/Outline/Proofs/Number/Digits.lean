import Outline.Number.Digits

/-!
# Reading digits back

Numbers are written by `Nat.toDigits` and read by `natOfDigits?`. Reading inverts writing,
and writing inverts reading on digits without superfluous zeros, so every number has one
plain decimal form.

- `natOfDigits?_of_isDigit` — the value of decimal digits
- `natOfDigits?_toDigits` — reading what was written
- `toDigits_ofDigitChars` — writing what was read
- `intOfDecimal?_toString` — reading an integer that was written
- `digit?_sixteen_iff` — the hexadecimal digits
-/

namespace Outline.Number

/-! ## §1 Decimal digits -/

/-- A decimal digit stands for a number below ten. -/
theorem toNat_lt_of_isDigit {c : Char} (h : c.isDigit = true) : c.toNat - '0'.toNat < 10 := by
  have hRange := Char.isDigit_iff_toNat.mp h
  have hZero : '0'.toNat = 48 := rfl
  have hNine : '9'.toNat = 57 := rfl
  omega

/-- A decimal digit has the value of its place behind zero. -/
theorem digit?_ten_of_isDigit {c : Char} (h : c.isDigit = true) :
    digit? 10 c = some (c.toNat - '0'.toNat) := by
  have hSmall := toNat_lt_of_isDigit h
  simp only [digit?, h, if_true, Option.filter_some, hSmall, decide_true]

/-- Decimal digits after a number that has been read are always a number. -/
theorem natAfter?_of_isDigit (digits : List Char) (h : ∀ c ∈ digits, c.isDigit = true)
    (read : Nat) : natAfter? 10 read digits = some (Nat.ofDigitChars 10 digits read) := by
  induction digits generalizing read with
  | nil => rfl
  | cons c rest ih =>
    have hDigit := digit?_ten_of_isDigit (h c (List.mem_cons_self ..))
    have hRest := ih fun d hd => h d (List.mem_cons_of_mem _ hd)
    rw [natAfter?, hDigit, Nat.ofDigitChars_cons, Nat.mul_comm 10 read]
    exact hRest _

/-- One or more decimal digits are always a number. -/
theorem natOfDigits?_of_isDigit (digits : List Char) (hSome : digits ≠ [])
    (h : ∀ c ∈ digits, c.isDigit = true) :
    natOfDigits? 10 digits = some (Nat.ofDigitChars 10 digits 0) := by
  have hEmpty : digits.isEmpty = false := by
    cases digits with
    | nil => exact absurd rfl hSome
    | cons c rest => rfl
  simp only [natOfDigits?, hEmpty, Bool.false_eq_true, if_false]
  exact natAfter?_of_isDigit digits h 0

/-- The digits of a number are decimal digits. -/
theorem isDigit_toDigits (n : Nat) : ∀ c ∈ Nat.toDigits 10 n, c.isDigit = true :=
  fun _ hc => Nat.isDigit_of_mem_toDigits (by decide) (by decide) hc

/-- Reading the digits of a number gives the number. -/
theorem natOfDigits?_toDigits (n : Nat) : natOfDigits? 10 (Nat.toDigits 10 n) = some n := by
  rw [natOfDigits?_of_isDigit _ Nat.toDigits_ne_nil (isDigit_toDigits n),
    Nat.ofDigitChars_ten_toDigits]

/-- A decimal digit is the digit of its value. -/
theorem digitChar_of_isDigit {c : Char} (h : c.isDigit = true) :
    (c.toNat - '0'.toNat).digitChar = c := by
  have hZero : '0'.toNat = 48 := rfl
  have hRange := Char.isDigit_iff_toNat.mp h
  have hSmall := toNat_lt_of_isDigit h
  have hBack := Nat.toNat_digitChar_sub_48_of_lt_ten hSmall
  have hDigit : (c.toNat - '0'.toNat).digitChar.isDigit = true := by
    rw [Nat.isDigit_digitChar, decide_eq_true hSmall]
  have hDigitRange := Char.isDigit_iff_toNat.mp hDigit
  -- both characters are as far from zero, and neither stands before it
  apply Char.toNat_inj.mp
  omega

/-- Further digits behind those of a positive number are written behind them. -/
theorem toDigits_ofDigitChars_of_pos (digits : List Char) (h : ∀ c ∈ digits, c.isDigit = true)
    {read : Nat} (hPos : 0 < read) :
    Nat.toDigits 10 (Nat.ofDigitChars 10 digits read) = Nat.toDigits 10 read ++ digits := by
  induction digits generalizing read with
  | nil => rw [Nat.ofDigitChars_nil, List.append_nil]
  | cons c rest ih =>
    have hDigit := h c (List.mem_cons_self ..)
    have hSmall := toNat_lt_of_isDigit hDigit
    have hNext : 0 < 10 * read + (c.toNat - '0'.toNat) := by omega
    have hRest := ih (fun d hd => h d (List.mem_cons_of_mem _ hd)) hNext
    -- the induction is for the number with the first digit behind it, which is positive too
    rw [Nat.ofDigitChars_cons, hRest, ← Nat.toDigits_append_toDigits (by decide) hPos hSmall,
      Nat.toDigits_of_lt_base hSmall, digitChar_of_isDigit hDigit, List.append_assoc]
    rfl

/-- Decimal digits of which only a lone zero begins with zero are those of their value. -/
theorem toDigits_ofDigitChars (digits : List Char) (hSome : digits ≠ [])
    (h : ∀ c ∈ digits, c.isDigit = true) (hZero : digits.head? = some '0' → digits = ['0']) :
    Nat.toDigits 10 (Nat.ofDigitChars 10 digits 0) = digits := by
  cases digits with
  | nil => exact absurd rfl hSome
  | cons c rest =>
    by_cases hc : c = '0'
    · subst hc
      rw [hZero rfl]
      rfl
    · -- the first digit is positive, so the others are written behind it
      have hDigit := h c (List.mem_cons_self ..)
      have hRange := Char.isDigit_iff_toNat.mp hDigit
      have hNe : c.toNat ≠ '0'.toNat := fun hEq => hc (Char.toNat_inj.mp hEq)
      have hSmall := toNat_lt_of_isDigit hDigit
      rw [Nat.ofDigitChars_cons, Nat.mul_zero, Nat.zero_add,
        toDigits_ofDigitChars_of_pos rest (fun d hd => h d (List.mem_cons_of_mem _ hd)) (by omega),
        Nat.toDigits_of_lt_base hSmall, digitChar_of_isDigit hDigit]
      rfl

/-- The decimal form of an integer. -/
theorem toList_toString_int (n : Int) :
    (toString n).toList =
      if 0 ≤ n then Nat.toDigits 10 n.natAbs else '-' :: Nat.toDigits 10 n.natAbs := by
  cases n with
  | ofNat m =>
    rw [if_pos (by simp)]
    exact Nat.toList_repr
  | negSucc m =>
    rw [if_neg (by omega)]
    show ("-" ++ Nat.repr (m + 1)).toList = _
    rw [String.toList_append, Nat.toList_repr]
    rfl

/-- A text of decimal digits has no sign in front. -/
theorem intOfDecimal?_of_isDigit (digits : List Char) (h : ∀ c ∈ digits, c.isDigit = true) :
    intOfDecimal? digits = (natOfDigits? 10 digits).map Int.ofNat := by
  unfold intOfDecimal?
  split
  · exact absurd (h '-' (List.mem_cons_self ..)) (by decide)
  · exact absurd (h '+' (List.mem_cons_self ..)) (by decide)
  · cases natOfDigits? 10 digits <;> rfl

/-- Reading the decimal form of an integer gives the integer. -/
theorem intOfDecimal?_toString (n : Int) : intOfDecimal? (toString n).toList = some n := by
  rw [toList_toString_int]
  split
  · rw [intOfDecimal?_of_isDigit _ (isDigit_toDigits _), natOfDigits?_toDigits]
    simp [Int.natAbs_of_nonneg ‹0 ≤ n›]
  · simp only [intOfDecimal?, natOfDigits?_toDigits]
    simp [Int.ofNat_natAbs_of_nonpos (Int.le_of_lt (Int.not_le.mp ‹¬0 ≤ n›))]

theorem toString_int_injective : Function.Injective (toString : Int → String) := by
  intro m n h
  have hRead := intOfDecimal?_toString m
  rw [h, intOfDecimal?_toString n] at hRead
  exact (Option.some.inj hRead).symm

/-- An integer that fits 64 bits is itself as a number of 64 bits. -/
theorem int64OfInt?_eq_some_iff {n : Int} {value : Int64} :
    int64OfInt? n = some value ↔ n = value.toInt := by
  unfold int64OfInt?
  constructor
  · intro h
    split at h
    · rename_i hFits
      cases h
      exact (Int64.toInt_ofInt_of_le hFits.1 (Int.lt_add_one_of_le hFits.2)).symm
    · cases h
  · rintro rfl
    rw [if_pos ⟨value.minValue_le_toInt, value.toInt_le⟩, Int64.ofInt_toInt]

/-! ## §2 Hexadecimal digits -/

/-- Helper: the hexadecimal digits among the first 128 characters. -/
private theorem digit?_sixteen_ascii : ∀ n < 128, ∀ value ∈ digit? 16 (Char.ofNat n),
    (Char.ofNat n).toLower = value.digitChar := by
  decide +kernel

/-- Helper: upper case and lower case have the same value among them. -/
private theorem digit?_sixteen_toLower : ∀ n < 128,
    digit? 16 (Char.ofNat n).toLower = digit? 16 (Char.ofNat n) := by
  decide +kernel

/-- Helper: the digits of numbers below sixteen are ASCII characters with these values. -/
private theorem digitChar_ascii : ∀ value < 16,
    value.digitChar.toNat < 128 ∧ digit? 16 value.digitChar = some value := by
  decide

/-- Characters beyond ASCII are no hexadecimal digits. -/
theorem digit?_sixteen_of_le {c : Char} (h : 128 ≤ c.toNat) : digit? 16 c = none := by
  have hDigit : c.isDigit = false := by
    rw [Bool.eq_false_iff]
    intro hd
    have hRange := Char.isDigit_iff_toNat.mp hd
    have hNine : '9'.toNat = 57 := rfl
    omega
  have hLower : ¬ c ≤ 'z' := by
    rw [Char.le_def, UInt32.le_iff_toNat_le]
    have hz : 'z'.val.toNat = 122 := rfl
    have hc : c.val.toNat = c.toNat := rfl
    omega
  have hUpper : ¬ c ≤ 'Z' := by
    rw [Char.le_def, UInt32.le_iff_toNat_le]
    have hz : 'Z'.val.toNat = 90 := rfl
    have hc : c.val.toNat = c.toNat := rfl
    omega
  simp only [digit?, hDigit, hLower, hUpper, decide_false, Bool.and_false, Bool.false_eq_true,
    if_false, Option.filter_none]

/-- Characters beyond ASCII have no lower case. -/
theorem toLower_of_le {c : Char} (h : 128 ≤ c.toNat) : c.toLower = c := by
  have hUpper : ¬ (c.val ≥ 'A'.val ∧ c.val ≤ 'Z'.val) := by
    rw [UInt32.le_iff_toNat_le (a := c.val)]
    have hz : 'Z'.val.toNat = 90 := rfl
    have hc : c.val.toNat = c.toNat := rfl
    omega
  exact dif_neg hUpper

/-- The hexadecimal digits are those of the numbers below sixteen, in either case. -/
theorem digit?_sixteen_iff {c : Char} {value : Nat} :
    digit? 16 c = some value ↔ value < 16 ∧ c.toLower = value.digitChar := by
  have hBound : digit? 16 c = some value → value < 16 := by
    intro h
    exact of_decide_eq_true (Option.filter_eq_some_iff.mp h).2
  by_cases hAscii : c.toNat < 128
  · have hTable := digit?_sixteen_ascii c.toNat hAscii value
    have hLower := digit?_sixteen_toLower c.toNat hAscii
    rw [Char.ofNat_toNat] at hTable hLower
    constructor
    · intro h
      exact ⟨hBound h, hTable h⟩
    · rintro ⟨hSmall, hDigit⟩
      rw [← hLower, hDigit]
      exact (digitChar_ascii value hSmall).2
  · have hFar : 128 ≤ c.toNat := by omega
    rw [digit?_sixteen_of_le hFar, toLower_of_le hFar]
    constructor
    · intro h
      cases h
    · rintro ⟨hSmall, rfl⟩
      exact absurd (digitChar_ascii value hSmall).1 hAscii

end Outline.Number
