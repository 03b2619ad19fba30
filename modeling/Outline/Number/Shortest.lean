/-!
# The shortest decimal of a 64-bit float

A float stands for an interval of real numbers: those that round to it. The shortest
decimal is the one with the fewest digits in that interval, and of those the nearest to
the float. All arithmetic is on natural numbers.

- `shortest` — digits and power of ten of a positive float
- `positional` — the text without an exponent
- `scientific` — the text with an exponent where the plain form would be long
-/

namespace Outline.Number

/-! ## §1 Parts of a float -/

/-- A positive float as `mantissa * 2 ^ exponent`. -/
structure Binary where
  mantissa : Nat
  exponent : Int
  /-- Whether the next float below is only half as far away as the next one above. -/
  narrowBelow : Bool

/-- What a float is, apart from its sign. -/
inductive Magnitude where
  | nan
  | infinite
  | zero
  | finite (value : Binary)

/-- The magnitude of a float. -/
def magnitude (x : Float) : Magnitude :=
  let bits := x.toBits.toNat
  let fraction : Nat := bits % Nat.pow 2 52
  let scale : Nat := bits / Nat.pow 2 52 % Nat.pow 2 11
  if scale == 2047 then if fraction == 0 then .infinite else .nan
  else if scale == 0 then
    if fraction == 0 then .zero else .finite ⟨fraction, -1074, false⟩
  else .finite ⟨fraction + Nat.pow 2 52, (scale : Int) - 1075, fraction == 0 && scale > 1⟩

/-- Whether the sign bit of a float is set. -/
def isNegative (x : Float) : Bool := x.toBits.toNat / Nat.pow 2 63 == 1

/-! ## §2 Shortest digits -/

/-- A decimal `digits * 10 ^ exponent`. -/
structure Decimal where
  digits : Nat
  exponent : Int

/-- The two factors of `base ^ exponent`, above and below the fraction bar. -/
def powerParts (base : Nat) (exponent : Int) : Nat × Nat :=
  (Nat.pow base exponent.toNat, Nat.pow base (-exponent).toNat)

/-- The number of decimal digits of a natural number. -/
def digitCount (n : Nat) : Nat := (Nat.toDigits 10 n).length

/-- The place of the first digit: `10 ^ place ≤ value < 10 ^ (place + 1)`. -/
def leadingPlace (value : Binary) : Int :=
  let (above, below) := powerParts 2 value.exponent
  (digitCount (value.mantissa * above * Nat.pow 10 400 / below) : Int) - 401

/-- Which of two decimals is taken when both are equally near. -/
inductive Tie where
  /-- The larger one. -/
  | up
  /-- The one whose last digit is even. -/
  | even
deriving DecidableEq

/-- Chooses between a number and the next one, given how far the float is from both. -/
def choose (tie : Tie) (floor below above : Nat) : Nat :=
  if below < above then floor
  else if above < below then floor + 1
  else match tie with
    | .up => floor + 1
    | .even => if floor % 2 == 0 then floor else floor + 1

/-- The decimal of the float on the grid of numbers with `count` digits, if a number of
    that grid rounds to the float. -/
def onGrid? (tie : Tie) (value : Binary) (place : Int) (count : Nat) : Option Decimal :=
  let exponent := place - count + 1
  let (tens, tenths) := powerParts 10 exponent
  let (twos, halves) := powerParts 2 (value.exponent - 2)
  -- everything is measured in quarters of the last binary place
  let unit := twos * tenths
  let centre := 4 * value.mantissa * unit
  let low := (4 * value.mantissa - (if value.narrowBelow then 1 else 2)) * unit
  let high := (4 * value.mantissa + 2) * unit
  let step := tens * halves
  let fits (candidate : Nat) : Bool :=
    if value.mantissa % 2 == 0 then low ≤ candidate * step && candidate * step ≤ high
    else low < candidate * step && candidate * step < high
  -- the float lies between two neighbours on the grid
  let floor := centre / step
  let above := (floor + 1) * step - centre
  let below := centre - floor * step
  match fits floor, fits (floor + 1) with
  | true, true => some ⟨choose tie floor below above, exponent⟩
  | true, false => some ⟨floor, exponent⟩
  | false, true => some ⟨floor + 1, exponent⟩
  | false, false => none

/-- Seventeen digits are enough for every float, so the grids up to there are tried. -/
def shortest (tie : Tie) (value : Binary) : Decimal :=
  let place := leadingPlace value
  ((List.range 17).findSome? fun n => onGrid? tie value place (n + 1)).getD ⟨0, 0⟩

/-- Digits as text and the place behind the last of them, without zeros at the end. -/
def digitText (decimal : Decimal) : List Char × Int :=
  let digits := Nat.toDigits 10 decimal.digits
  let kept := (digits.reverse.dropWhile (· == '0')).reverse
  (kept, decimal.exponent + (digits.length - kept.length : Nat))

/-! ## §3 Texts -/

/-- Digits with the point put in its place, zeros being added where needed. The whole part
    is never empty. -/
def pointed (digits : List Char) (exponent : Int) : List Char × List Char :=
  let whole := (digits.length : Int) + exponent
  if exponent ≥ 0 then (digits ++ List.replicate exponent.toNat '0', [])
  else if whole > 0 then digits.splitAt whole.toNat
  else (['0'], List.replicate (-whole).toNat '0' ++ digits)

/-- The sign of a float as text. -/
def signText (x : Float) : String := if isNegative x then "-" else ""

/-- The shortest decimal without an exponent; whole numbers are followed by `whole`. -/
def positionalWith (tie : Tie) (whole : String) (x : Float) : String :=
  match magnitude x with
  | .nan => "NaN"
  | .infinite => signText x ++ "inf"
  | .zero => signText x ++ "0" ++ whole
  | .finite value =>
    let (digits, exponent) := digitText (shortest tie value)
    let (before, behind) := pointed digits exponent
    signText x ++ String.ofList before
      ++ (if behind.isEmpty then whole else "." ++ String.ofList behind)

/-- The shortest decimal without an exponent, whole numbers without a point. -/
def positional : Float → String := positionalWith .up ""

/-- The shortest decimal without an exponent, whole numbers ending in `.0`. -/
def pointedText : Float → String := positionalWith .up ".0"

/-- The shortest decimal with a point; numbers from `10 ^ 16` on and numbers below
    `10 ^ -5` have an exponent. -/
def scientific (x : Float) : String :=
  match magnitude x with
  | .finite value =>
    let (digits, exponent) := digitText (shortest .even value)
    let whole := (digits.length : Int) + exponent
    if -5 < whole && whole ≤ 16 then positionalWith .even ".0" x
    else
      let mantissa := match digits with
        | [] => "0"
        | [first] => String.ofList [first]
        | first :: rest => String.ofList (first :: '.' :: rest)
      signText x ++ mantissa ++ "e" ++ toString (whole - 1)
  | _ => pointedText x

/-! ## §4 Reading -/

/-- The float nearest to `digits * 10 ^ exponent`. Exponents far out of the range of floats
    are decided without computing the power. -/
def nearest (digits : Nat) (exponent : Int) : Float :=
  let place := (digitCount digits : Int) + exponent
  if digits == 0 || place < -400 then 0.0
  else if place > 400 then 1.0 / 0.0
  else if exponent ≥ 0 then Float.ofScientific digits false exponent.toNat
  else Float.ofScientific digits true (-exponent).toNat

end Outline.Number
