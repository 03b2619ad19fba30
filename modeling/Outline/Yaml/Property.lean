import Outline.Number.Digits
import Outline.Yaml.Block
import Outline.Yaml.Token

/-!
# Anchors, tags and directives

Scanners for what stands around the nodes of a document: names of anchors, tags in their
three forms, and the directives in front of a document.
-/

namespace Outline.Yaml

/-! ## §1 Anchors -/

/-- What may follow the name of an anchor directly, besides a gap. -/
def isAnchorEnd (c : Char) : Bool :=
  c == '?' || c == ':' || c == ',' || c == ']' || c == '}' || c == '%' || c == '@' || c == '`'

/-- The name of an anchor or alias, behind its mark. -/
def anchorName (text : List Char) : Option (String × List Char) :=
  let name := text.takeWhile isNameChar
  let rest := text.dropWhile isNameChar
  let ends := match rest with
    | [] => true
    | c :: _ => isGap c || isAnchorEnd c
  if name.isEmpty || !ends then none else some (String.ofList name, rest)

/-! ## §2 Tags -/

/-- The characters of tags. Brackets and commas belong to tags in full only. -/
def isTagChar (inFull : Bool) (c : Char) : Bool :=
  isNameChar c || [';', '/', '?', ':', '@', '&', '=', '+', '$', '.', '!', '~', '*', '\'', '(',
    ')'].contains c || (inFull && (c == ',' || c == '[' || c == ']'))

/-- The octet written by two hexadecimal digits. -/
def octet? (a b : Char) : Option Nat := Number.natOfDigits? 16 [a, b]

/-- The first octet of a character: how many octets follow, and the bits it gives. -/
def firstOctet? (octet : Nat) : Option (Nat × Nat) :=
  if octet < 0x80 then some (0, octet)
  else if octet / 32 = 6 then some (1, octet % 32)
  else if octet / 16 = 14 then some (2, octet % 16)
  else if octet / 8 = 30 then some (3, octet % 8)
  else none

/-- The character of a code, and the replacement character where there is none. -/
def charOfCode (code : Nat) : Char :=
  if code.isValidChar then Char.ofNat code else Char.ofNat 0xFFFD

/-- The text of a tag. Octets may be written by a percent sign and two digits; `owed` of
    them are still to come for the character begun, whose bits so far are `code`. -/
def tagText (inFull : Bool) (owed code : Nat) : List Char → Option (List Char × List Char)
  | '%' :: a :: b :: rest =>
    match octet? a b with
    | none => none
    | some octet =>
      match owed with
      | 0 =>
        match firstOctet? octet with
        | none => none
        | some (0, code) => before [charOfCode code] (tagText inFull 0 0 rest)
        | some (owed, code) => tagText inFull owed code rest
      | 1 =>
        if octet / 64 = 2 then
          before [charOfCode (code * 64 + octet % 64)] (tagText inFull 0 0 rest)
        else none
      | owed + 1 =>
        if octet / 64 = 2 then tagText inFull owed (code * 64 + octet % 64) rest else none
  | c :: rest =>
    if owed ≠ 0 || c = '%' then none
    else if isTagChar inFull c then before [c] (tagText inFull 0 0 rest)
    else some ([], c :: rest)
  | [] => if owed ≠ 0 then none else some ([], [])

/-- The beginning of a tag: an exclamation mark, a name, and a second mark if it is there. -/
def tagHandle : List Char → Option (List Char × List Char)
  | '!' :: text =>
    let name := text.takeWhile isNameChar
    match text.dropWhile isNameChar with
    | '!' :: rest => some ('!' :: (name ++ ['!']), rest)
    | rest => some ('!' :: name, rest)
  | _ => none

/-- A handle has a mark at both ends. -/
def isHandle (text : List Char) : Bool := text.length > 1 && text.getLast? = some '!'

/-- A tag in full, behind its opening bracket. -/
def fullTag (text : List Char) : Option (Token × List Char) :=
  match tagText true 0 0 text with
  | some (suffix, '>' :: rest) =>
    if suffix.isEmpty then none else some (.tag "" (String.ofList suffix), rest)
  | _ => none

/-- A tag with or without a handle. The single mark stands for itself. -/
def shortTag (text : List Char) : Option (Token × List Char) := do
  let (handle, rest) ← tagHandle text
  let (suffix, rest) ← tagText false 0 0 rest
  if isHandle handle then
    if suffix.isEmpty then none
    else return (.tag (String.ofList handle) (String.ofList suffix), rest)
  else
    let suffix := handle.drop 1 ++ suffix
    if suffix.isEmpty then return (.tag "" "!", rest)
    else return (.tag "!" (String.ofList suffix), rest)

/-- A tag from its first mark on. A gap has to follow, or a comma in flow collections. -/
def tag (inFlow : Bool) (text : List Char) : Option (Token × List Char) := do
  let (token, rest) ← match text with
    | '!' :: '<' :: rest => fullTag rest
    | _ => shortTag text
  if endsWord rest || (inFlow && rest.head? = some ',') then return (token, rest) else none

/-! ## §3 Directives -/

/-- A part of a version, of at most nine digits. -/
def versionPart (text : List Char) : Option (Nat × List Char) :=
  let digits := text.takeWhile Char.isDigit
  if digits.length > 9 then none
  else (Number.natOfDigits? 10 digits).map fun n => (n, text.dropWhile Char.isDigit)

/-- The version of a version directive. -/
def versionDirective (text : List Char) : Option (Token × List Char) := do
  let (major, rest) ← versionPart (text.dropWhile isBlank)
  match rest with
  | '.' :: rest =>
    let (minor, rest) ← versionPart rest
    return (.versionDirective major minor, rest)
  | _ => none

/-- Handle and start of a tag directive. -/
def tagDirective (text : List Char) : Option (Token × List Char) := do
  let (handle, rest) ← tagHandle (text.dropWhile isBlank)
  if !isHandle handle && handle != ['!'] then none
  else if !(rest.head?.any isBlank) then none
  else
    let (start, rest) ← tagText true 0 0 (rest.dropWhile isBlank)
    if start.isEmpty || !endsWord rest then none
    else return (.tagDirective (String.ofList handle) (String.ofList start), rest)

/-- A directive behind the percent sign, up to the end of its line. -/
def directive (text : List Char) : Option (Token × List Char) := do
  let name := text.takeWhile isNameChar
  let rest := text.dropWhile isNameChar
  if !endsWord rest then none
  else
    let (token, rest) ←
      if name = ['Y', 'A', 'M', 'L'] then versionDirective rest
      else if name = ['T', 'A', 'G'] then tagDirective rest
      else none
    let rest ← restOfLine rest
    return (token, rest)

end Outline.Yaml
