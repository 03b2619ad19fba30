import Outline.Mismatch
import Outline.Number.Digits

/-!
# What scalars stand for

A plain scalar without a tag stands for null, a truth value, an integer, a float or a
text, by the look of it. Quoted and block scalars are texts. A tag of the standard
collection says what the scalar has to be.
-/

namespace Outline.Yaml

/-! ## §1 Values -/

/-- What a scalar stands for. -/
inductive ScalarValue where
  | null
  | boolean (value : Bool)
  /-- An integer within 64 bits, signed or not. -/
  | integer (value : Int)
  /-- An integer beyond them but within 128 bits. -/
  | wideInteger (value : Int) (negative : Bool)
  | float (value : Float)
  | text (content : String)

/-- Words for null. -/
def isNullWord (text : String) : Bool := ["null", "Null", "NULL", "~"].contains text

/-- Words for truth values. -/
def boolean? (text : String) : Option Bool :=
  if ["true", "True", "TRUE"].contains text then some true
  else if ["false", "False", "FALSE"].contains text then some false
  else none

/-! ## §2 Integers -/

/-- The text without one sign in front. -/
def unsigned : List Char → List Char
  | '+' :: rest | '-' :: rest => rest
  | text => text

/-- Decimal digits with superfluous zeros in front, which are not taken for a number. -/
def hasExtraZero (text : List Char) : Bool :=
  match unsigned text with
  | '0' :: c :: rest => (c :: rest).all Char.isDigit
  | _ => false

/-- The size of an integer without its sign: digits in base sixteen, eight or two behind a
    mark, or in base ten. -/
def size? : List Char → Option Nat
  | '0' :: 'x' :: digits => Number.natOfDigits? 16 digits
  | '0' :: 'o' :: digits => Number.natOfDigits? 8 digits
  | '0' :: 'b' :: digits => Number.natOfDigits? 2 digits
  | digits => if hasExtraZero digits then none else Number.natOfDigits? 10 digits

/-- The integer a text looks like, up to 128 bits. -/
def integer? (text : List Char) : Option ScalarValue :=
  match text with
  | '-' :: rest =>
    match size? rest with
    | some n =>
      if n ≤ Nat.pow 2 63 then some (.integer (-n))
      else if n ≤ Nat.pow 2 127 then some (.wideInteger (-n) true)
      else none
    | none => none
  | text =>
    match size? (match text with | '+' :: rest => rest | _ => text) with
    | some n =>
      if n < Nat.pow 2 64 then some (.integer n)
      else if n < Nat.pow 2 128 then some (.wideInteger n false)
      else none
    | none => none

/-! ## §3 Floats -/

/-- An exponent: nothing, or a letter, an optional sign and digits. -/
def exponent? : List Char → Option Int
  | [] => some 0
  | 'e' :: rest | 'E' :: rest => Number.intOfDecimal? rest
  | _ => none

/-- A decimal: digits with a point somewhere, at least one of them, and an exponent. -/
def decimal? (text : List Char) : Option Float :=
  let whole := text.takeWhile Char.isDigit
  let (fraction, rest) := match text.dropWhile Char.isDigit with
    | '.' :: rest => (rest.takeWhile Char.isDigit, rest.dropWhile Char.isDigit)
    | rest => ([], rest)
  match Number.natOfDigits? 10 (whole ++ fraction), exponent? rest with
  | some digits, some exponent =>
    let value := Number.nearest digits (exponent - fraction.length)
    if value.isFinite then some value else none
  | _, _ => none

/-- Words for infinity, without a sign. -/
def isInfinityWord (text : List Char) : Bool :=
  [".inf", ".Inf", ".INF"].contains (String.ofList text)

/-- The float a text looks like. Decimals too large for a float are none. -/
def float? (text : List Char) : Option Float :=
  if [".nan", ".NaN", ".NAN"].contains (String.ofList text) then some (0.0 / 0.0)
  else match text with
    | '-' :: rest =>
      if isInfinityWord rest then some (-1.0 / 0.0) else (decimal? rest).map fun x => -x
    | '+' :: rest => if isInfinityWord rest then some (1.0 / 0.0) else decimal? rest
    | text => if isInfinityWord text then some (1.0 / 0.0) else decimal? text

/-! ## §4 Scalars -/

/-- What a plain scalar without a tag stands for. -/
def resolvePlain (text : String) : ScalarValue :=
  if text.isEmpty || isNullWord text then .null
  else match boolean? text with
    | some value => .boolean value
    | none =>
      match integer? text.toList with
      | some value => value
      | none =>
        if hasExtraZero text.toList then .text text
        else match float? text.toList with
          | some value => .float value
          | none => .text text

/-- A tag of the standard collection. -/
def standardTag (name : String) : String := "tag:yaml.org,2002:" ++ name

/-- What a scalar stands for; nothing if it cannot be what its tag says. -/
def resolve (tag : Option String) (text : String) (isPlain : Bool) : Option ScalarValue :=
  match tag with
  | none => some (if isPlain then resolvePlain text else .text text)
  | some tag =>
    if tag = standardTag "bool" then (boolean? text).map .boolean
    else if tag = standardTag "int" then integer? text.toList
    else if tag = standardTag "float" then (float? text.toList).map .float
    else if tag = standardTag "null" then if isNullWord text then some .null else none
    else if tag.startsWith "!" && isPlain then some (resolvePlain text)
    else some (.text text)

namespace ScalarValue

/-- How a message names a scalar. -/
def found : ScalarValue → Found
  | null => .unit
  | boolean value => .boolean value
  | integer value => .integer value
  | wideInteger value negative => .wideInteger value negative
  | float value => .float (Number.pointedText value)
  | text content => .string content

end ScalarValue

end Outline.Yaml
