import Outline.Mismatch
import Outline.Number.Digits

/-!
# The pieces of JSON text

Scanners for blanks, words, strings and numbers. A scanner works on the characters that
are still to be read and returns, with what it read, the characters after it. Text that
ends too early is told apart from text that is malformed.

- `characters` — a string behind its opening quote
- `literal` — a number behind its sign
- `escaped_length`, `characters_length` — scanners leave less than they were given
-/

namespace Outline.Json

/-! ## §1 Problems -/

/-- Why a text could not be read. -/
inductive Problem where
  /-- The text ended too early. -/
  | endOfText
  /-- The text is no JSON, or its nesting is too deep. -/
  | malformed
  /-- The text is JSON but not what was expected. -/
  | mismatch (cause : Mismatch)

namespace Problem

/-- The text that reports a problem. -/
def message : Problem → String
  | endOfText => "unexpected end of text"
  | malformed => "malformed text"
  | mismatch cause => cause.message

end Problem

/-- What was read, with the characters after it. -/
abbrev Parsed (α : Type) := Except Problem (α × List Char)

/-- The problem with text that cannot go on here: it has ended, or it goes on wrongly. -/
def stuck : List Char → Problem
  | [] => .endOfText
  | _ :: _ => .malformed

/-! ## §2 Blanks and words -/

/-- The four characters that may stand between tokens. -/
def isBlank (c : Char) : Bool := c == ' ' || c == '\n' || c == '\t' || c == '\r'

/-- The text without the blanks at its beginning. -/
def skipBlank (text : List Char) : List Char := text.dropWhile isBlank

/-- Reads the rest of a word. -/
def word : List Char → List Char → Except Problem (List Char)
  | [], text => .ok text
  | _ :: _, [] => .error .endOfText
  | c :: more, d :: text => if c = d then word more text else .error .malformed

/-- Reads a colon with blanks in front of it. -/
def colon (text : List Char) : Except Problem (List Char) :=
  match skipBlank text with
  | ':' :: rest => .ok rest
  | rest => .error (stuck rest)

/-! ## §3 Strings -/

/-- Four hexadecimal digits. Fewer than four bytes of text are too little. -/
def fourDigits (text : List Char) : Parsed Nat :=
  match text with
  | a :: b :: c :: d :: rest =>
    match Number.natOfDigits? 16 [a, b, c, d] with
    | some n => .ok (n, rest)
    | none => .error .malformed
  | few => .error (if (String.ofList few).utf8ByteSize < 4 then .endOfText else .malformed)

/-- The character of an escape with one letter. -/
def shortEscape? (c : Char) : Option Char :=
  if c == '"' || c == '\\' || c == '/' then some c
  else if c == 'b' then some (Char.ofNat 0x08)
  else if c == 'f' then some (Char.ofNat 0x0C)
  else if c == 'n' then some '\n'
  else if c == 'r' then some '\r'
  else if c == 't' then some '\t'
  else none

/-- The first half of a surrogate pair. -/
def isLeading (n : Nat) : Bool := 0xD800 ≤ n && n ≤ 0xDBFF

/-- The second half of a surrogate pair. -/
def isTrailing (n : Nat) : Bool := 0xDC00 ≤ n && n ≤ 0xDFFF

/-- The character of a surrogate pair. -/
def ofPair (leading trailing : Nat) : Char :=
  Char.ofNat ((leading - 0xD800) * 0x400 + (trailing - 0xDC00) + 0x10000)

/-- The second half of a pair whose first half has been read. -/
def secondHalf (leading : Nat) : List Char → Parsed Char
  | '\\' :: 'u' :: rest =>
    match fourDigits rest with
    | .error problem => .error problem
    | .ok (n, rest) =>
      if isTrailing n then .ok (ofPair leading n, rest) else .error .malformed
  | ['\\'] => .error .endOfText
  | rest => .error (stuck rest)

/-- A character written by its code, behind the letter `u`. Halves of pairs come in
    pairs only. -/
def coded (text : List Char) : Parsed Char :=
  match fourDigits text with
  | .error problem => .error problem
  | .ok (n, rest) =>
    if isTrailing n then .error .malformed
    else if isLeading n then secondHalf n rest
    else .ok (Char.ofNat n, rest)

/-- The character of an escape, behind the backslash. -/
def escaped : List Char → Parsed Char
  | [] => .error .endOfText
  | 'u' :: rest => coded rest
  | c :: rest =>
    match shortEscape? c with
    | some c => .ok (c, rest)
    | none => .error .malformed

/-- Helper: four digits are consumed. -/
theorem fourDigits_length {text rest : List Char} {n : Nat}
    (h : fourDigits text = .ok (n, rest)) : rest.length < text.length := by
  unfold fourDigits at h
  split at h
  · split at h
    · cases h
      simp only [List.length_cons]
      omega
    · cases h
  · cases h

/-- Helper: the second half of a pair is consumed. -/
theorem secondHalf_length {leading : Nat} {text rest : List Char} {c : Char}
    (h : secondHalf leading text = .ok (c, rest)) : rest.length < text.length := by
  unfold secondHalf at h
  split at h
  · split at h
    · cases h
    · rename_i hd
      have := fourDigits_length hd
      split at h
      · simp only [Except.ok.injEq, Prod.mk.injEq] at h
        obtain ⟨_, rfl⟩ := h
        simp only [List.length_cons]
        omega
      · cases h
  · cases h
  · cases h

/-- An escape leaves less than it was given. -/
theorem escaped_length {text rest : List Char} {c : Char}
    (h : escaped text = .ok (c, rest)) : rest.length < text.length := by
  unfold escaped at h
  split at h
  · cases h
  · unfold coded at h
    split at h
    · cases h
    · rename_i hd
      have := fourDigits_length hd
      split at h
      · cases h
      · split at h
        · have := secondHalf_length h
          simp only [List.length_cons]
          omega
        · cases h
          simp only [List.length_cons]
          omega
  · split at h
    · cases h
      simp only [List.length_cons]
      omega
    · cases h

/-- Puts a character in front of those read after it. -/
def prepend (c : Char) : Parsed (List Char) → Parsed (List Char)
  | .ok (more, rest) => .ok (c :: more, rest)
  | .error problem => .error problem

/-- The characters of a string, behind its opening quote. Control characters below the
    space have to be escaped. -/
def characters : List Char → Parsed (List Char)
  | [] => .error .endOfText
  | '"' :: rest => .ok ([], rest)
  | '\\' :: rest =>
    match _h : escaped rest with
    | .error problem => .error problem
    | .ok (c, rest) => prepend c (characters rest)
  | c :: rest =>
    if c.toNat < 0x20 then .error .malformed else prepend c (characters rest)
termination_by text => text.length
decreasing_by
  · have := escaped_length _h
    simp only [List.length_cons]
    omega
  · simp only [List.length_cons]
    omega

/-- A string behind its opening quote, as text. -/
def text (chars : List Char) : Parsed String :=
  match characters chars with
  | .ok (read, rest) => .ok (String.ofList read, rest)
  | .error problem => .error problem

/-! ## §4 Numbers -/

/-- A number as it is written, apart from its sign. -/
structure Literal where
  whole : List Char
  /-- The digits behind the point. -/
  fraction : List Char := []
  /-- The exponent, if one is written. -/
  exponent : Option Int := none
  /-- Whether there is neither a point nor an exponent. -/
  isInteger : Bool := true

/-- One or more digits. -/
def digits (text : List Char) : Parsed (List Char) :=
  let read := text.takeWhile Char.isDigit
  let rest := text.dropWhile Char.isDigit
  if read.isEmpty then .error (stuck rest) else .ok (read, rest)

/-- The number written by decimal digits. -/
def decimal (digits : List Char) : Nat := (Number.natOfDigits? 10 digits).getD 0

/-- The digits of an exponent, behind the letter `e` and its sign. -/
def exponentDigits (negative : Bool) (number : Literal) (text : List Char) : Parsed Literal :=
  match digits text with
  | .error problem => .error problem
  | .ok (read, rest) =>
    let size : Int := decimal read
    .ok ({ number with exponent := some (if negative then -size else size), isInteger := false },
      rest)

/-- An exponent, if one follows. -/
def exponentPart (number : Literal) : List Char → Parsed Literal
  | 'e' :: '+' :: rest | 'E' :: '+' :: rest => exponentDigits false number rest
  | 'e' :: '-' :: rest | 'E' :: '-' :: rest => exponentDigits true number rest
  | 'e' :: rest | 'E' :: rest => exponentDigits false number rest
  | rest => .ok (number, rest)

/-- A number behind its sign. A zero is not followed by other digits. -/
def literal (text : List Char) : Parsed Literal :=
  match digits text with
  | .error problem => .error problem
  -- a zero at the beginning stands alone
  | .ok ('0' :: _ :: _, _) => .error .malformed
  | .ok (whole, '.' :: rest) =>
    match digits rest with
    | .error problem => .error problem
    | .ok (fraction, rest) => exponentPart { whole, fraction, isInteger := false } rest
  | .ok (whole, rest) => exponentPart { whole } rest

/-- The value of a number. -/
inductive Amount where
  | integer (value : Int)
  | float (value : Float)

/-- Reads digits as long as the number stays below `2 ^ 64`; the others are left. -/
def leading (read : Nat) : List Char → Nat × List Char
  | [] => (read, [])
  | c :: rest =>
    let next := read * 10 + (c.toNat - '0'.toNat)
    if next < Nat.pow 2 64 then leading next rest else (read, c :: rest)

/-- A power of ten as a float. -/
def tenTo (n : Nat) : Float := Float.ofScientific 1 false n

/-- A significand below `2 ^ 64` times a power of ten, computed in floats: one
    multiplication, or one division, or two where the power is below `10 ^ -308`. Numbers
    that are too large have no value. -/
def scaled? (significand : Nat) (exponent : Int) : Option Float :=
  let base := (UInt64.ofNat significand).toFloat
  if exponent > 308 then if significand == 0 then some base else none
  else if exponent ≥ 0 then
    let product := base * tenTo exponent.toNat
    if product.isInf then none else some product
  else if exponent ≥ -308 then some (base / tenTo (-exponent).toNat)
  else if exponent ≥ -616 then some (base / tenTo 308 / tenTo (-exponent - 308).toNat)
  else some 0.0

/-- The value of a number as a float. Digits that do not fit the significand only count
    as places. -/
def Literal.float? (number : Literal) : Option Float :=
  let (whole, dropped) := leading 0 number.whole
  let (significand, behind) := leading whole number.fraction
  let places : Int := dropped.length - (number.fraction.length - behind.length : Nat)
  scaled? significand (places + number.exponent.getD 0)

/-- The value of a number: an integer if it is written as one and fits 64 bits, and a float
    otherwise. A negative zero is a float. -/
def Literal.amount (negative : Bool) (number : Literal) : Except Problem Amount :=
  let size := decimal number.whole
  if number.isInteger && !negative && size < Nat.pow 2 64 then .ok (.integer size)
  else if number.isInteger && negative && 0 < size && size ≤ Nat.pow 2 63 then
    .ok (.integer (-(size : Int)))
  else match number.float? with
    | some value => .ok (.float (if negative then -value else value))
    | none => .error .malformed

/-- A number behind its sign, with its value. -/
def amount (negative : Bool) (text : List Char) : Parsed Amount :=
  match literal text with
  | .error problem => .error problem
  | .ok (number, rest) => (number.amount negative).map fun value => (value, rest)

/-- How a message names a number. -/
def Amount.found : Amount → Found
  | .integer value => .integer value
  | .float value => .float (Number.scientific value)

end Outline.Json
