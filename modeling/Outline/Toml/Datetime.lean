import Outline.Number.Digits

/-!
# Dates and times in TOML

A date, a time of day, or both, and with both an offset from universal time. Seconds are
always written, and fractions of them count to nine places.

- `Datetime.scan?` — reads a date, a time or both from the beginning of a text
- `Datetime.text` — the one text of a moment
-/

namespace Outline.Toml

/-! ## §1 Moments -/

/-- A day of the calendar. -/
structure Date where
  year : Nat
  month : Nat
  day : Nat
deriving DecidableEq

/-- A time of day. -/
structure TimeOfDay where
  hour : Nat
  minute : Nat
  second : Nat
  nanosecond : Nat
deriving DecidableEq

/-- How far a clock is from universal time. -/
inductive Offset where
  | universal
  /-- So many minutes ahead. -/
  | minutes (ahead : Int)
deriving DecidableEq

/-- What can be written as a date or a time. -/
inductive Datetime where
  | day (date : Date)
  | clock (time : TimeOfDay)
  | moment (date : Date) (time : TimeOfDay) (offset : Option Offset)
deriving DecidableEq

/-! ## §2 Texts -/

/-- The decimal digits of a number, with zeros in front up to a width. -/
def padded (width n : Nat) : String :=
  let digits := Nat.toDigits 10 n
  String.ofList (List.replicate (width - digits.length) '0' ++ digits)

/-- The text of a date. -/
def Date.text (date : Date) : String :=
  padded 4 date.year ++ "-" ++ padded 2 date.month ++ "-" ++ padded 2 date.day

/-- The text of a fraction of a second, without zeros at its end. -/
def fractionText (nanosecond : Nat) : String :=
  if nanosecond = 0 then ""
  else
    let digits := (padded 9 nanosecond).toList
    "." ++ String.ofList (digits.reverse.dropWhile (· == '0')).reverse

/-- The text of a time of day. -/
def TimeOfDay.text (time : TimeOfDay) : String :=
  padded 2 time.hour ++ ":" ++ padded 2 time.minute ++ ":" ++ padded 2 time.second
    ++ fractionText time.nanosecond

/-- The text of an offset. -/
def Offset.text : Offset → String
  | universal => "Z"
  | minutes ahead =>
    (if ahead < 0 then "-" else "+") ++ padded 2 (ahead.natAbs / 60) ++ ":"
      ++ padded 2 (ahead.natAbs % 60)

/-- The text of a date, a time or both. -/
def Datetime.text : Datetime → String
  | day date => date.text
  | clock time => time.text
  | moment date time offset => date.text ++ "T" ++ time.text ++ (offset.map Offset.text).getD ""

/-! ## §3 Reading -/

/-- The days of a month. -/
def daysIn (year month : Nat) : Nat :=
  if month = 2 then
    if year % 4 = 0 ∧ (year % 100 ≠ 0 ∨ year % 400 = 0) then 29 else 28
  else if month = 4 ∨ month = 6 ∨ month = 9 ∨ month = 11 then 30
  else 31

/-- A number of exactly two digits, up to a limit. -/
def twoDigits? (limit : Nat) : List Char → Option (Nat × List Char)
  | a :: b :: rest =>
    ((Number.natOfDigits? 10 [a, b]).filter (· ≤ limit)).map fun n => (n, rest)
  | _ => none

/-- A date at the beginning of a text. -/
def Date.scan? : List Char → Option (Date × List Char)
  | a :: b :: c :: d :: '-' :: rest => do
    let year ← Number.natOfDigits? 10 [a, b, c, d]
    let (month, rest) ← twoDigits? 12 rest
    match rest with
    | '-' :: rest =>
      let (day, rest) ← twoDigits? 31 rest
      if 1 ≤ month ∧ 1 ≤ day ∧ day ≤ daysIn year month then some (⟨year, month, day⟩, rest)
      else none
    | _ => none
  | _ => none

/-- Nanoseconds from the digits behind the point; digits from the tenth on do not count. -/
def nanoseconds (digits : List Char) : Nat :=
  let kept := digits.take 9
  ((Number.natOfDigits? 10 kept).getD 0) * Nat.pow 10 (9 - kept.length)

/-- A fraction of a second, if one follows. -/
def scanFraction : List Char → Nat × List Char
  | '.' :: rest =>
    let digits := rest.takeWhile Char.isDigit
    if digits.isEmpty then (0, '.' :: rest)
    else (nanoseconds digits, rest.dropWhile Char.isDigit)
  | rest => (0, rest)

/-- A time of day at the beginning of a text. A minute may have a sixty-first second. -/
def TimeOfDay.scan? (text : List Char) : Option (TimeOfDay × List Char) := do
  let (hour, rest) ← twoDigits? 23 text
  match rest with
  | ':' :: rest =>
    let (minute, rest) ← twoDigits? 59 rest
    match rest with
    | ':' :: rest =>
      let (second, rest) ← twoDigits? 60 rest
      let (nanosecond, rest) := scanFraction rest
      some (⟨hour, minute, second, nanosecond⟩, rest)
    | _ => none
  | _ => none

/-- The hours and minutes of an offset, behind its sign. -/
def scanAhead? (text : List Char) : Option (Int × List Char) := do
  let (hours, rest) ← twoDigits? 23 text
  match rest with
  | ':' :: rest =>
    let (minutes, rest) ← twoDigits? 59 rest
    some ((hours * 60 + minutes : Nat), rest)
  | _ => none

/-- An offset, if one follows. -/
def Offset.scan? : List Char → Option (Option Offset × List Char)
  | 'Z' :: rest | 'z' :: rest => some (some .universal, rest)
  | '+' :: rest => (scanAhead? rest).map fun (ahead, rest) => (some (.minutes ahead), rest)
  | '-' :: rest => (scanAhead? rest).map fun (ahead, rest) => (some (.minutes (-ahead)), rest)
  | rest => some (none, rest)

/-- What follows a date: a time behind the letter `T` or a blank, or nothing. -/
def scanBehind? (date : Date) : List Char → Option (Datetime × List Char)
  | c :: rest =>
    if c == 'T' || c == 't' || c == ' ' then
      match TimeOfDay.scan? rest with
      | some (time, rest) =>
        (Offset.scan? rest).map fun (offset, rest) => (.moment date time offset, rest)
      -- a blank may also be followed by a comment
      | none => some (.day date, c :: rest)
    else some (.day date, c :: rest)
  | [] => some (.day date, [])

/-- A date, a time or both at the beginning of a text. -/
def Datetime.scan? (text : List Char) : Option (Datetime × List Char) :=
  match Date.scan? text with
  | some (date, rest) => scanBehind? date rest
  | none => (TimeOfDay.scan? text).map fun (time, rest) => (.clock time, rest)

end Outline.Toml
