import Outline.Proofs.Record.IntegerText
import Outline.Yaml.Scalar

/-!
# Plain scalars that denote an integer

Some plain scalars stand for an integer by the look of them, with or without a mark of another
base. Others that denote an integer stand for a text, because they have zeros in front or blanks
around them. No scalar of the second sort looks like a float or like anything else.

- `Size`, `integer?_eq_some`, `integer?_of_signed` — scalars that look like an integer
- `isBlank_of_float?` — scalars that look like a float have no blanks
- `IntegerScalar` — scalars that denote an integer
- `resolvePlain_of_integerScalar` — what they stand for
-/

namespace Outline.Yaml

open Number (Numeral Signed)

/-! ## §1 Scalars that look like an integer -/

/-- The marks of the bases other than ten. -/
def baseMarks : List (Char × Nat) := [('x', 16), ('o', 8), ('b', 2)]

/-- Digits in base sixteen, eight or two behind a zero and the mark of the base. -/
inductive Marked (n : Nat) : List Char → Prop where
  | digits {mark : Char} {base : Nat} {digits : List Char} : (mark, base) ∈ baseMarks →
      Numeral base n digits → Marked n ('0' :: mark :: digits)

/-- The size of an integer that a scalar looks like. Decimal digits have no superfluous zero. -/
inductive Size (n : Nat) (text : List Char) : Prop where
  | marked : Marked n text → Size n text
  | decimal : Numeral 10 n text → hasExtraZero text = false → Size n text

theorem base_le_of_mem_baseMarks {mark : Char} {base : Nat} (h : (mark, base) ∈ baseMarks) :
    base ≤ 16 := by
  have hAll : ∀ pair ∈ baseMarks, pair.2 ≤ 16 := by decide
  exact hAll _ h

theorem isAlphanum_of_mem_baseMarks {mark : Char} {base : Nat} (h : (mark, base) ∈ baseMarks) :
    mark.isAlphanum = true := by
  have hAll : ∀ pair ∈ baseMarks, pair.1.isAlphanum = true := by decide
  exact hAll _ h

/-- A marked numeral has letters and digits only. -/
theorem Marked.isAlphanum {n : Nat} {text : List Char} (h : Marked n text) :
    ∀ c ∈ text, c.isAlphanum = true := by
  obtain ⟨hMark, hDigits⟩ := h
  rw [List.forall_mem_cons, List.forall_mem_cons]
  exact ⟨by decide, isAlphanum_of_mem_baseMarks hMark,
    hDigits.isAlphanum (base_le_of_mem_baseMarks hMark)⟩

theorem Size.isBlank_eq_false {n : Nat} {text : List Char} (h : Size n text) :
    ∀ c ∈ text, Text.isBlank c = false := by
  intro c hc
  apply Text.isBlank_of_isAlphanum
  cases h with
  | marked hMarked => exact hMarked.isAlphanum c hc
  | decimal hDigits _ => exact hDigits.isAlphanum (by decide) c hc

/-- A size is read from exactly the texts of that size. -/
theorem size?_eq_some_iff {n : Nat} {text : List Char} : size? text = some n ↔ Size n text := by
  constructor
  · intro h
    unfold size? at h
    split at h
    · exact .marked (.digits (by decide) ((Number.natOfDigits?_eq_some_iff (by decide)).mp h))
    · exact .marked (.digits (by decide) ((Number.natOfDigits?_eq_some_iff (by decide)).mp h))
    · exact .marked (.digits (by decide) ((Number.natOfDigits?_eq_some_iff (by decide)).mp h))
    · obtain ⟨hZero, hDigits⟩ := Option.ite_none_left_eq_some.mp h
      exact .decimal ((Number.natOfDigits?_eq_some_iff (by decide)).mp hDigits)
        (Bool.eq_false_iff.mpr hZero)
  · intro h
    cases h with
    | marked hMarked =>
      obtain ⟨hMark, hDigits⟩ := hMarked
      have hRead := (Number.natOfDigits?_eq_some_iff (base_le_of_mem_baseMarks hMark)).mpr hDigits
      simp only [baseMarks, List.mem_cons, Prod.mk.injEq, List.not_mem_nil, or_false] at hMark
      rcases hMark with ⟨rfl, rfl⟩ | ⟨rfl, rfl⟩ | ⟨rfl, rfl⟩ <;> exact hRead
    | decimal hDigits hZero =>
      have hRead := (Number.natOfDigits?_eq_some_iff (by decide)).mpr hDigits
      have hMark {c : Char} {rest : List Char} (hText : text = '0' :: c :: rest) :
          c.isDigit = true := hDigits.isDigit c (by simp [hText])
      unfold size?
      split
      · exact absurd (hMark rfl) (by decide)
      · exact absurd (hMark rfl) (by decide)
      · exact absurd (hMark rfl) (by decide)
      · rw [hZero, if_neg Bool.false_ne_true, hRead]

/-- A text begins with a decimal digit, and not with a sign. -/
def DigitFirst (text : List Char) : Prop := ∃ c rest, text = c :: rest ∧ c.isDigit = true

theorem digitFirst_of_numeral {n : Nat} {text : List Char} (h : Numeral 10 n text) :
    DigitFirst text := by
  obtain ⟨c, rest, rfl⟩ := List.exists_cons_of_ne_nil h.1
  exact ⟨c, rest, rfl, h.isDigit c List.mem_cons_self⟩

theorem Marked.digitFirst {n : Nat} {text : List Char} (h : Marked n text) : DigitFirst text := by
  obtain ⟨_, _⟩ := h
  exact ⟨'0', _, rfl, by decide⟩

theorem Size.digitFirst {n : Nat} {text : List Char} (h : Size n text) : DigitFirst text := by
  cases h with
  | marked hMarked => exact hMarked.digitFirst
  | decimal hDigits _ => exact digitFirst_of_numeral hDigits

/-- A scalar looks like the integer that its sign and its size make, if it looks like one. -/
theorem integer?_eq_some {text : List Char} {value : ScalarValue}
    (h : integer? text = some value) :
    ∃ n, Signed Size n text ∧
      (value = .integer n ∨ ∃ negative, value = .wideInteger n negative) := by
  unfold integer? at h
  split at h
  · split at h
    · rename_i hSize
      refine ⟨_, .minus (size?_eq_some_iff.mp hSize), ?_⟩
      -- the bounds only tell the two sorts of integers apart
      split at h
      · exact .inl (Option.some.inj h).symm
      split at h
      · exact .inr ⟨true, (Option.some.inj h).symm⟩
      · cases h
    · cases h
  · split at h
    · rename_i n hSize
      have hText : Signed Size n text := by
        split at hSize
        · exact .plus (size?_eq_some_iff.mp hSize)
        · exact .bare (size?_eq_some_iff.mp hSize)
      refine ⟨_, hText, ?_⟩
      split at h
      · exact .inl (Option.some.inj h).symm
      split at h
      · exact .inr ⟨false, (Option.some.inj h).symm⟩
      · cases h
    · cases h

/-- Within 64 bits every sign and size make an integer. -/
theorem integer?_of_signed {n : Int64} {text : List Char} (h : Signed Size n.toInt text) :
    integer? text = some (.integer n.toInt) := by
  have hLow := n.le_toInt
  have hHigh := n.toInt_lt
  generalize n.toInt = number at h hLow hHigh
  -- the signed range of 64 bits is within the bounds on either side of zero
  have hWide : Nat.pow 2 64 = 18446744073709551616 := rfl
  have hHalf : Nat.pow 2 63 = 9223372036854775808 := rfl
  cases h with
  | @bare size _ hSize =>
    obtain ⟨c, rest, rfl, hDigit⟩ := hSize.digitFirst
    have hMinus : c ≠ '-' := by
      rintro rfl
      exact absurd hDigit (by decide)
    have hPlus : c ≠ '+' := by
      rintro rfl
      exact absurd hDigit (by decide)
    have hSmall : size < Nat.pow 2 64 := by omega
    unfold integer?
    split
    · rename_i hSame
      exact absurd (List.cons.inj hSame).1 hMinus
    · simp [hPlus, size?_eq_some_iff.mpr hSize, hSmall]
  | @plus size _ hSize =>
    have hSmall : size < Nat.pow 2 64 := by omega
    simp [integer?, size?_eq_some_iff.mpr hSize, hSmall]
  | @minus size _ hSize =>
    have hSmall : size ≤ Nat.pow 2 63 := by omega
    simp [integer?, size?_eq_some_iff.mpr hSize, hSmall]

/-! ## §2 Scalars that look like a float -/

theorem isBlank_of_exponent? {text : List Char} {exponent : Int}
    (h : exponent? text = some exponent) : ∀ c ∈ text, Text.isBlank c = false := by
  have hDigits {rest : List Char} (hRest : Number.intOfDecimal? rest = some exponent) :
      ∀ c ∈ rest, Text.isBlank c = false := by
    have hSigned := Number.intOfDecimal?_eq_some_iff.mp hRest
    exact hSigned.forall_mem (p := fun c => Text.isBlank c = false) (by decide) (by decide)
      fun _ _ => Number.Numeral.isBlank_eq_false (by decide)
  unfold exponent? at h
  split at h
  · simp
  · exact List.forall_mem_cons.mpr ⟨by decide, hDigits h⟩
  · exact List.forall_mem_cons.mpr ⟨by decide, hDigits h⟩
  · cases h

theorem isBlank_of_takeWhile_isDigit {text : List Char} :
    ∀ c ∈ text.takeWhile Char.isDigit, Text.isBlank c = false := by
  intro c hc
  apply Text.isBlank_of_isAlphanum
  simp [Char.isAlphanum, List.mem_takeWhile_imp hc]

theorem isBlank_of_decimal? {text : List Char} {value : Float} (h : decimal? text = some value) :
    ∀ c ∈ text, Text.isBlank c = false := by
  rw [← List.takeWhile_append_dropWhile (p := Char.isDigit) (l := text), List.forall_mem_append]
  refine ⟨isBlank_of_takeWhile_isDigit, ?_⟩
  unfold decimal? at h
  split at h
  rename_i fraction rest hBehind
  simp only at h
  split at h
  · rename_i _ exponent _ hExponent
    have hRest := isBlank_of_exponent? hExponent
    -- behind the digits stand a point and more digits, or the exponent follows at once
    split at hBehind
    · rename_i behind hPoint
      cases hBehind
      rw [hPoint, List.forall_mem_cons,
        ← List.takeWhile_append_dropWhile (p := Char.isDigit) (l := behind), List.forall_mem_append]
      exact ⟨by decide, isBlank_of_takeWhile_isDigit, hRest⟩
    · cases hBehind
      exact hRest
  · cases h

/-- A scalar that looks like a float has no blanks. -/
theorem isBlank_of_float? {text : List Char} {value : Float} (h : float? text = some value) :
    ∀ c ∈ text, Text.isBlank c = false := by
  -- the words for infinity and for what is no number have no blanks either
  have hWord {words : List String} {text : List Char}
      (hWords : ∀ word ∈ words, word.toList.all (!Text.isBlank ·) = true)
      (hText : words.contains (String.ofList text) = true) :
      ∀ c ∈ text, Text.isBlank c = false := by
    have hAll := hWords _ (List.contains_iff_mem.mp hText)
    simpa using hAll
  have hInfinity {text : List Char} (hText : isInfinityWord text = true) :
      ∀ c ∈ text, Text.isBlank c = false := hWord (by decide) hText
  unfold float? at h
  split at h
  · rename_i hNan
    exact hWord (by decide) hNan
  split at h
  · rw [List.forall_mem_cons]
    refine ⟨by decide, ?_⟩
    split at h
    · exact hInfinity ‹_›
    · obtain ⟨size, hSize, -⟩ := Option.map_eq_some_iff.mp h
      exact isBlank_of_decimal? hSize
  · rw [List.forall_mem_cons]
    refine ⟨by decide, ?_⟩
    split at h
    · exact hInfinity ‹_›
    · exact isBlank_of_decimal? h
  · split at h
    · exact hInfinity ‹_›
    · exact isBlank_of_decimal? h

/-! ## §3 Signs and zeros -/

theorem unsigned_of_isDigit {c : Char} (h : c.isDigit = true) (rest : List Char) :
    unsigned (c :: rest) = c :: rest := by
  unfold unsigned
  split
  · rename_i hSame
    cases hSame
    exact absurd h (by decide)
  · rename_i hSame
    cases hSame
    exact absurd h (by decide)
  · rfl

/-- A sign does not make a difference to the zeros behind it. -/
theorem hasExtraZero_sign {sign : Char} (hSign : sign = '+' ∨ sign = '-') {text : List Char}
    (h : DigitFirst text) : hasExtraZero (sign :: text) = hasExtraZero text := by
  obtain ⟨c, rest, rfl, hDigit⟩ := h
  have hUnsigned : unsigned (sign :: c :: rest) = c :: rest := by
    rcases hSign with rfl | rfl <;> rfl
  rw [hasExtraZero, hasExtraZero, hUnsigned, unsigned_of_isDigit hDigit]

/-- Behind an optional sign stand digits that have all the zeros, and other digits of the same
    number may take their place. -/
theorem exists_digits {Unsigned : Nat → List Char → Prop} {n : Int} {text : List Char}
    (h : Signed Unsigned n text) (hFirst : ∀ m digits, Unsigned m digits → DigitFirst digits) :
    ∃ m digits, Unsigned m digits ∧ digits <:+ text ∧
      hasExtraZero text = hasExtraZero digits ∧
      ∀ {Other : Nat → List Char → Prop}, Other m digits → Signed Other n text := by
  cases h with
  | bare hDigits => exact ⟨_, _, hDigits, List.suffix_rfl, rfl, .bare⟩
  | plus hDigits =>
    exact ⟨_, _, hDigits, List.suffix_cons _ _, hasExtraZero_sign (.inl rfl) (hFirst _ _ hDigits),
      .plus⟩
  | minus hDigits =>
    exact ⟨_, _, hDigits, List.suffix_cons _ _, hasExtraZero_sign (.inr rfl) (hFirst _ _ hDigits),
      .minus⟩

theorem exists_isDigit {Unsigned : Nat → List Char → Prop} {n : Int} {text : List Char}
    (h : Signed Unsigned n text) (hFirst : ∀ m digits, Unsigned m digits → DigitFirst digits) :
    ∃ c ∈ text, c.isDigit = true := by
  obtain ⟨m, digits, hDigits, hSuffix, -⟩ := exists_digits h hFirst
  obtain ⟨c, rest, rfl, hDigit⟩ := hFirst m digits hDigits
  exact ⟨c, hSuffix.subset List.mem_cons_self, hDigit⟩

/-- A scalar that looks like an integer has no superfluous zero. -/
theorem hasExtraZero_of_integer? {text : List Char} {value : ScalarValue}
    (h : integer? text = some value) : hasExtraZero text = false := by
  obtain ⟨n, hSigned, -⟩ := integer?_eq_some h
  obtain ⟨m, digits, hSize, -, hZero, -⟩ := exists_digits hSigned fun _ _ => Size.digitFirst
  rw [hZero]
  cases hSize with
  | decimal _ hNone => exact hNone
  | marked hMarked =>
    obtain ⟨hMark, -⟩ := hMarked
    have hLetters : ∀ pair ∈ baseMarks, pair.1.isDigit = false := by decide
    simp [hasExtraZero, unsigned, hLetters _ hMark]

theorem isBlank_of_integer? {text : List Char} {value : ScalarValue}
    (h : integer? text = some value) : ∀ c ∈ text, Text.isBlank c = false := by
  obtain ⟨n, hSigned, -⟩ := integer?_eq_some h
  exact hSigned.forall_mem (p := fun c => Text.isBlank c = false) (by decide) (by decide)
    fun _ _ => Size.isBlank_eq_false

/-! ## §4 Plain scalars -/

/-- A scalar with a digit is no word for null or for a truth value. -/
theorem resolvePlain_of_isDigit {text : String} (h : ∃ c ∈ text.toList, c.isDigit = true) :
    (∀ value, integer? text.toList = some value → resolvePlain text = value) ∧
      (integer? text.toList = none →
        hasExtraZero text.toList = true ∨ float? text.toList = none →
        resolvePlain text = .text text) := by
  obtain ⟨c, hc, hDigit⟩ := h
  have hEmpty : text.isEmpty = false := by
    rw [String.isEmpty_eq_false_iff]
    rintro rfl
    cases hc
  -- none of the words has a digit
  have hWord {words : List String} (hWords : ∀ word ∈ words, word.toList.any Char.isDigit = false) :
      words.contains text = false := by
    rw [List.contains_eq_mem, decide_eq_false_iff_not]
    intro hMem
    exact List.any_eq_false.mp (hWords text hMem) c hc hDigit
  have hNull : isNullWord text = false := hWord (by decide)
  have hTrue : ["true", "True", "TRUE"].contains text = false := hWord (by decide)
  have hFalse : ["false", "False", "FALSE"].contains text = false := hWord (by decide)
  simp only [resolvePlain, boolean?, hEmpty, hNull, hTrue, hFalse, Bool.or_self,
    Bool.false_eq_true, if_false]
  refine ⟨?_, ?_⟩
  · intro value hValue
    rw [hValue]
  · intro hNone hText
    rw [hNone]
    rcases hText with hZero | hFloat
    · simp only [hZero, if_true]
    · simp only [hFloat, ite_self]

/-- A scalar with a superfluous zero stands for its own text. -/
theorem resolvePlain_of_hasExtraZero {text : String} (h : ∃ c ∈ text.toList, c.isDigit = true)
    (hZero : hasExtraZero text.toList = true) : resolvePlain text = .text text := by
  refine (resolvePlain_of_isDigit h).2 ?_ (.inl hZero)
  apply Option.eq_none_iff_forall_ne_some.mpr
  intro value hValue
  rw [hasExtraZero_of_integer? hValue] at hZero
  cases hZero

/-- An integer is resolved from a scalar that looks like it only. -/
theorem integer?_of_resolvePlain {text : String} {n : Int} (h : resolvePlain text = .integer n) :
    integer? text.toList = some (.integer n) := by
  unfold resolvePlain at h
  split at h
  · cases h
  split at h
  · cases h
  split at h
  · rename_i hValue
    rw [hValue, h]
  split at h
  · cases h
  split at h <;> cases h

/-- A text is resolved from itself only. -/
theorem eq_of_resolvePlain {text content : String} (h : resolvePlain text = .text content) :
    content = text := by
  unfold resolvePlain at h
  split at h
  · cases h
  split at h
  · cases h
  split at h
  · -- what looks like an integer stands for no text
    rename_i hValue
    obtain ⟨n, -, hSame | ⟨negative, hSame⟩⟩ := integer?_eq_some hValue
    · rw [hSame] at h
      cases h
    · rw [hSame] at h
      cases h
  split at h
  · cases h
    rfl
  split at h
  · cases h
  · cases h
    rfl

/-- A scalar that denotes an integer: decimal digits with any number of zeros in front and with
    blanks around them, or the digits of another base behind its mark, and an optional sign. -/
inductive IntegerScalar (n : Int) (text : List Char) : Prop where
  | decimal : IntegerText n text → IntegerScalar n text
  | marked : Signed Marked n text → IntegerScalar n text

theorem IntegerScalar.exists_isDigit {n : Int} {text : List Char} (h : IntegerScalar n text) :
    ∃ c ∈ text, c.isDigit = true := by
  cases h with
  | decimal hText =>
    obtain ⟨-, hSigned, -⟩ := hText
    obtain ⟨c, hc, hDigit⟩ := Yaml.exists_isDigit hSigned fun _ _ => digitFirst_of_numeral
    exact ⟨c, by simp [hc], hDigit⟩
  | marked hSigned => exact Yaml.exists_isDigit hSigned fun _ _ => Marked.digitFirst

/-- What looks like an integer denotes it. -/
theorem integerScalar_of_size {n : Int} {text : List Char} (h : Signed Size n text) :
    IntegerScalar n text := by
  obtain ⟨m, digits, hSize, -, -, hSigned⟩ := exists_digits h fun _ _ => Size.digitFirst
  cases hSize with
  | marked hMarked => exact .marked (hSigned hMarked)
  | decimal hDigits _ => exact .decimal (integerText_of_signed (hSigned hDigits))

/-- What denotes an integer looks like it, or is resolved to its own text. -/
theorem resolvePlain_of_integerScalar {scalar : String} {n : Int64}
    (h : IntegerScalar n.toInt scalar.toList) :
    resolvePlain scalar = .integer n.toInt ∨
      resolvePlain scalar = .text scalar ∧ IntegerText n.toInt scalar.toList := by
  have hDigit := h.exists_isDigit
  obtain ⟨hInteger, hOther⟩ := resolvePlain_of_isDigit hDigit
  cases h with
  | marked hMarked =>
    obtain ⟨m, digits, hDigits, -, -, hSigned⟩ :=
      exists_digits hMarked fun _ _ => Marked.digitFirst
    exact .inl (hInteger _ (integer?_of_signed (hSigned (.marked hDigits))))
  | decimal hText =>
    cases hZero : hasExtraZero scalar.toList with
    | true => exact .inr ⟨resolvePlain_of_hasExtraZero hDigit hZero, hText⟩
    | false =>
      by_cases hBlank : ∀ c ∈ scalar.toList, Text.isBlank c = false
      · -- without blanks the whole scalar is the number
        rw [integerText_iff, Text.trim_eq_self hBlank] at hText
        obtain ⟨m, digits, hDigits, -, hSame, hSigned⟩ :=
          exists_digits hText fun _ _ => digitFirst_of_numeral
        rw [hSame] at hZero
        exact .inl (hInteger _ (integer?_of_signed (hSigned (.decimal hDigits hZero))))
      · -- with blanks the scalar looks like nothing but a text
        have hLooks : integer? scalar.toList = none :=
          Option.eq_none_iff_forall_ne_some.mpr fun value hValue =>
            hBlank (isBlank_of_integer? hValue)
        have hFloat : float? scalar.toList = none :=
          Option.eq_none_iff_forall_ne_some.mpr fun value hValue =>
            hBlank (isBlank_of_float? hValue)
        exact .inr ⟨hOther hLooks (.inr hFloat), hText⟩

/-- Decimal digits with at least one more zero in front. -/
def ZeroPadded (n : Nat) (text : List Char) : Prop :=
  ∃ digits, text = '0' :: digits ∧ Numeral 10 n digits

/-- Zeros in front of decimal digits do not change what they denote. -/
theorem ZeroPadded.numeral {n : Nat} {text : List Char} (h : ZeroPadded n text) :
    Numeral 10 n text := by
  obtain ⟨digits, rfl, hSome, values, hValues, rfl⟩ := h
  refine ⟨List.cons_ne_nil _ _, 0 :: values, .cons ⟨by decide, rfl⟩ hValues, ?_⟩
  rw [List.reverse_cons, Nat.ofDigits_append, Nat.ofDigits_singleton, Nat.mul_zero, Nat.add_zero]

theorem resolvePlain_of_zeroPadded {scalar : String} {n : Int}
    (h : Signed ZeroPadded n scalar.toList) :
    resolvePlain scalar = .text scalar ∧ IntegerText n scalar.toList := by
  obtain ⟨m, padded, hPadded, -, hSame, hSigned⟩ :=
    exists_digits h fun _ _ hPadded => digitFirst_of_numeral hPadded.numeral
  have hText := integerText_of_signed (hSigned hPadded.numeral)
  obtain ⟨digits, rfl, hDigits⟩ := hPadded
  have hZero : hasExtraZero scalar.toList = true := by
    obtain ⟨c, rest, rfl⟩ := List.exists_cons_of_ne_nil hDigits.1
    rw [hSame, hasExtraZero, unsigned_of_isDigit (by decide)]
    exact List.all_eq_true.mpr hDigits.isDigit
  exact ⟨resolvePlain_of_hasExtraZero (IntegerScalar.decimal hText).exists_isDigit hZero, hText⟩

end Outline.Yaml
