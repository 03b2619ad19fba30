import Outline.Number.Shortest
import Outline.Toml.Text
import Outline.Toml.Value

/-!
# Numbers in TOML

Integers in four bases and floats. An underscore may stand between two digits.
-/

namespace Outline.Toml

/-- Digits behind a first one, without the underscores between them. -/
def moreDigits (isDigit : Char → Bool) : List Char → List Char × List Char
  | '_' :: c :: rest =>
    if isDigit c then
      let (digits, rest) := moreDigits isDigit rest
      (c :: digits, rest)
    else ([], '_' :: c :: rest)
  | c :: rest =>
    if isDigit c then
      let (digits, rest) := moreDigits isDigit rest
      (c :: digits, rest)
    else ([], c :: rest)
  | [] => ([], [])

/-- One or more digits. -/
def digits? (isDigit : Char → Bool) : List Char → Scanned (List Char)
  | c :: rest =>
    if isDigit c then
      let (digits, rest) := moreDigits isDigit rest
      some (c :: digits, rest)
    else none
  | [] => none

/-- The whole part of a decimal number: no digit follows a zero at its beginning. -/
def whole? : List Char → Scanned (List Char)
  | '0' :: rest => some (['0'], rest)
  | text => digits? Char.isDigit text

/-- A sign, if there is one; it is told whether it is a minus. -/
def sign : List Char → Bool × List Char
  | '-' :: rest => (true, rest)
  | '+' :: rest => (false, rest)
  | rest => (false, rest)

/-- The digits behind a point, if there are any. -/
def fraction? : List Char → Scanned (List Char)
  | '.' :: rest => digits? Char.isDigit rest
  | _ => none

/-- The exponent behind the letter `e`, if there is one. -/
def exponent? : List Char → Scanned Int
  | c :: rest =>
    if c == 'e' || c == 'E' then
      let (negative, rest) := sign rest
      match digits? Char.isDigit rest with
      | some (digits, rest) =>
        let size : Int := (Number.natOfDigits? 10 digits).getD 0
        some (if negative then -size else size, rest)
      | none => none
    else none
  | [] => none

/-- The value of a float. One that is too large is refused, but not one that is too far
    below zero. -/
def float? (negative : Bool) (whole fraction : List Char) (exponent : Int) : Option Value :=
  let digits := (Number.natOfDigits? 10 (whole ++ fraction)).getD 0
  let size := Number.nearest digits (exponent - fraction.length)
  -- only the positive side is checked
  if negative then some (.float (-size))
  else if size.isInf then none
  else some (.float size)

/-- The value of an integer, if it fits 64 bits. -/
def integer? (base : Nat) (negative : Bool) (digits : List Char) : Option Value := do
  let size ← Number.natOfDigits? base digits
  let value ← Number.int64OfInt? (if negative then -(size : Int) else size)
  some (.integer value)

/-- A value with the text behind it. -/
def before (rest : List Char) (value : Option Value) : Scanned Value :=
  value.map fun value => (value, rest)

/-- A decimal number behind its sign. -/
def decimal? (negative : Bool) (text : List Char) : Scanned Value :=
  match whole? text with
  | none => none
  | some (whole, rest) =>
    match fraction? rest with
    | some (fraction, rest) =>
      match exponent? rest with
      | some (exponent, rest) => before rest (float? negative whole fraction exponent)
      | none => before rest (float? negative whole fraction 0)
    | none =>
      match exponent? rest with
      | some (exponent, rest) => before rest (float? negative whole [] exponent)
      | none => before rest (integer? 10 negative whole)

/-- An integer in another base than ten, behind the letters that name the base. -/
def inBase? (base : Nat) (text : List Char) : Scanned Value :=
  match digits? (fun c => (Number.digit? base c).isSome) text with
  | some (digits, rest) => before rest (integer? base false digits)
  | none => none

/-- A number. -/
def number? : List Char → Scanned Value
  | '0' :: 'x' :: rest => inBase? 16 rest
  | '0' :: 'o' :: rest => inBase? 8 rest
  | '0' :: 'b' :: rest => inBase? 2 rest
  | text =>
    match sign text with
    | (negative, 'i' :: 'n' :: 'f' :: rest) =>
      some (.float (if negative then -(1.0 / 0.0) else 1.0 / 0.0), rest)
    | (_, 'n' :: 'a' :: 'n' :: rest) => some (.float (0.0 / 0.0), rest)
    | (negative, rest) => decimal? negative rest

end Outline.Toml
