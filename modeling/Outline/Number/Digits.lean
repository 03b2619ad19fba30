/-!
# Numbers written in digits

Reading natural numbers and integers from lists of digits in a base. A list of digits is
never empty, and any number of leading zeros is fine.

- `natOfDigits?` — digits without a sign
- `intOfDecimal?` — an optional sign and decimal digits
- `int64OfDecimal?` — the same, if the number fits 64 bits
-/

namespace Outline.Number

/-- The value of a character as a digit in a base of up to thirty-six. -/
def digit? (base : Nat) (c : Char) : Option Nat :=
  let value? :=
    if c.isDigit then some (c.toNat - '0'.toNat)
    else if 'a' ≤ c && c ≤ 'z' then some (c.toNat - 'a'.toNat + 10)
    else if 'A' ≤ c && c ≤ 'Z' then some (c.toNat - 'A'.toNat + 10)
    else none
  value?.filter (· < base)

/-- The number written by digits after a number already read. -/
def natAfter? (base : Nat) (read : Nat) : List Char → Option Nat
  | [] => some read
  | c :: rest =>
    match digit? base c with
    | some digit => natAfter? base (read * base + digit) rest
    | none => none

/-- The number written by one or more digits. -/
def natOfDigits? (base : Nat) (digits : List Char) : Option Nat :=
  if digits.isEmpty then none else natAfter? base 0 digits

/-- The integer written by an optional sign and one or more decimal digits. -/
def intOfDecimal? : List Char → Option Int
  | '-' :: digits => (natOfDigits? 10 digits).map fun n => -(n : Int)
  | '+' :: digits => (natOfDigits? 10 digits).map fun n => (n : Int)
  | digits => (natOfDigits? 10 digits).map fun n => (n : Int)

/-- The integer as a signed 64-bit number, if it is one. -/
def int64OfInt? (n : Int) : Option Int64 :=
  if Int64.minValue.toInt ≤ n ∧ n ≤ Int64.maxValue.toInt then some (Int64.ofInt n) else none

/-- The signed 64-bit number written by an optional sign and decimal digits. -/
def int64OfDecimal? (text : List Char) : Option Int64 :=
  (intOfDecimal? text).bind int64OfInt?

/-- The natural number below a bound written by decimal digits, a plus sign in front of
    them being allowed. -/
def natOfDecimal? (bound : Nat) (text : List Char) : Option Nat :=
  let digits := match text with
    | '+' :: digits => digits
    | digits => digits
  (natOfDigits? 10 digits).filter (· < bound)

end Outline.Number
