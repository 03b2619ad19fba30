import Outline.Number.Digits

/-!
# The pieces of TOML text

Scanners for blanks, comments, strings and keys. A scanner works on the characters that are
still to be read and returns, with what it read, the characters after it. Lines end in a
line feed; `unifyLines` brings text into this form.

- `basic?` — a string between double quotes, behind the opening ones
- `literal?` — a string between single quotes, behind the opening ones
- `path?` — keys with dots between them
-/

namespace Outline.Toml

/-- What was read, with the characters after it. -/
abbrev Scanned (α : Type) := Option (α × List Char)

/-! ## §1 Lines, blanks and comments -/

/-- The text with a line feed alone where there is one behind a carriage return. -/
def unifyLines : List Char → List Char
  | '\r' :: '\n' :: rest => '\n' :: unifyLines rest
  | c :: rest => c :: unifyLines rest
  | [] => []

/-- The blanks within a line. -/
def isBlank (c : Char) : Bool := c == ' ' || c == '\t'

/-- The text without the blanks at its beginning. -/
def skipBlank (text : List Char) : List Char := text.dropWhile isBlank

/-- The characters that stand for themselves in strings and comments: no control characters
    but the tab. -/
def isPlain (c : Char) : Bool := c == '\t' || (0x20 ≤ c.toNat && c.toNat != 0x7F)

/-- The rest of a line that may only hold blanks and a comment, with the line's end. -/
def finishLine? (text : List Char) : Option (List Char) :=
  let behind := match skipBlank text with
    | '#' :: comment => comment.dropWhile isPlain
    | rest => rest
  match behind with
  | [] => some []
  | '\n' :: rest => some rest
  | _ => none

/-- The text without the blanks, line ends and comments at its beginning. The flag tells
    whether the text begins within a comment. -/
def skipLines (inComment : Bool) : List Char → List Char
  | [] => []
  | c :: rest =>
    if c == '\n' then skipLines false rest
    else if inComment then if isPlain c then skipLines true rest else c :: rest
    else if c == '#' then skipLines true rest
    else if isBlank c then skipLines false rest
    else c :: rest

/-! ## §2 Strings -/

/-- The character of an escape with one letter. -/
def shortEscape? (c : Char) : Option Char :=
  if c == '"' || c == '\\' then some c
  else if c == 'b' then some (Char.ofNat 0x08)
  else if c == 'f' then some (Char.ofNat 0x0C)
  else if c == 'n' then some '\n'
  else if c == 'r' then some '\r'
  else if c == 't' then some '\t'
  else none

/-- The character with a code, if it is one. -/
def charOfCode? (code : Nat) : Option Char :=
  if code.isValidChar then some (Char.ofNat code) else none

/-- Where in a string between double quotes a character stands. -/
inductive Place where
  | plain
  /-- Behind a backslash. -/
  | escape
  /-- In the code of a character, with so many digits to come after the next one. -/
  | code (left : Nat) (read : Nat)
  /-- Behind a backslash and blanks, so that the line has to end. -/
  | lineEnd
  /-- Behind a line end that does not count, nor do blanks and line ends after it. -/
  | joined

/-- Puts characters in front of those read after them. -/
def prepend (chars : List Char) : Scanned (List Char) → Scanned (List Char)
  | some (more, rest) => some (chars ++ more, rest)
  | none => none

/-- A string between double quotes, behind the opening ones. One of several lines ends in
    three quotes and may have up to two more in front of them. -/
def basic? (multiline : Bool) : Place → List Char → Scanned (List Char)
  | _, [] => none
  | .escape, c :: rest =>
    if c == 'u' then basic? multiline (.code 3 0) rest
    else if c == 'U' then basic? multiline (.code 7 0) rest
    else match shortEscape? c with
      | some c => prepend [c] (basic? multiline .plain rest)
      | none =>
        -- a backslash at the end of a line takes the line end away
        if !multiline then none
        else if c == '\n' then basic? multiline .joined rest
        else if isBlank c then basic? multiline .lineEnd rest
        else none
  | .code left read, c :: rest =>
    match Number.digit? 16 c with
    | none => none
    | some digit =>
      let code := read * 16 + digit
      match left with
      | 0 =>
        match charOfCode? code with
        | some c => prepend [c] (basic? multiline .plain rest)
        | none => none
      | left + 1 => basic? multiline (.code left code) rest
  | .lineEnd, c :: rest =>
    if c == '\n' then basic? multiline .joined rest
    else if isBlank c then basic? multiline .lineEnd rest
    else none
  | place, c :: rest =>
    let skipped := match place with
      | .joined => isBlank c || c == '\n'
      | _ => false
    if skipped then basic? multiline .joined rest
    else if c == '\\' then basic? multiline .escape rest
    else if c == '"' then
      if !multiline then some ([], rest)
      else match rest with
        -- of five quotes in a row the last three close the string
        | '"' :: '"' :: '"' :: '"' :: rest => some (['"', '"'], rest)
        | '"' :: '"' :: '"' :: rest => some (['"'], rest)
        | '"' :: '"' :: rest => some ([], rest)
        | rest => prepend ['"'] (basic? multiline .plain rest)
    else if isPlain c || (multiline && c == '\n') then
      prepend [c] (basic? multiline .plain rest)
    else none

/-- A string between single quotes, behind the opening ones. Nothing is escaped in it. -/
def literal? (multiline : Bool) : List Char → Scanned (List Char)
  | [] => none
  | c :: rest =>
    if c == '\'' then
      if !multiline then some ([], rest)
      else match rest with
        | '\'' :: '\'' :: '\'' :: '\'' :: rest => some (['\'', '\''], rest)
        | '\'' :: '\'' :: '\'' :: rest => some (['\''], rest)
        | '\'' :: '\'' :: rest => some ([], rest)
        | rest => prepend ['\''] (literal? multiline rest)
    else if isPlain c || (multiline && c == '\n') then prepend [c] (literal? multiline rest)
    else none

/-- The text without a line end at its beginning. -/
def skipLineEnd : List Char → List Char
  | '\n' :: rest => rest
  | rest => rest

/-- Characters read, as text. -/
def asText : Scanned (List Char) → Scanned String
  | some (chars, rest) => some (String.ofList chars, rest)
  | none => none

/-- A string of any kind. -/
def string? : List Char → Scanned String
  | '"' :: '"' :: '"' :: rest => asText (basic? true .plain (skipLineEnd rest))
  | '"' :: rest => asText (basic? false .plain rest)
  | '\'' :: '\'' :: '\'' :: rest => asText (literal? true (skipLineEnd rest))
  | '\'' :: rest => asText (literal? false rest)
  | _ => none

/-! ## §3 Keys -/

/-- The characters of a key without quotes. -/
def isBare (c : Char) : Bool := c.isAlphanum || c == '_' || c == '-'

/-- A key: a word, or a string of one line. -/
def key? : List Char → Scanned String
  | '"' :: rest => asText (basic? false .plain rest)
  | '\'' :: rest => asText (literal? false rest)
  | text =>
    let word := text.takeWhile isBare
    if word.isEmpty then none else some (String.ofList word, text.dropWhile isBare)

/-- Up to so many keys with dots between them. Blanks around each key do not count. -/
def pathWithin? : Nat → List Char → Scanned (List String)
  | 0, _ => none
  | most + 1, text =>
    match key? (skipBlank text) with
    | none => none
    | some (key, rest) =>
      match skipBlank rest with
      | '.' :: rest =>
        match pathWithin? most rest with
        | some (path, rest) => some (key :: path, rest)
        | none => none
      | rest => some ([key], rest)

/-- The depth from which on nesting is refused. -/
def maxNesting : Nat := 80

/-- Keys with dots between them. -/
def path? (text : List Char) : Scanned (List String) := pathWithin? (maxNesting - 1) text

end Outline.Toml
