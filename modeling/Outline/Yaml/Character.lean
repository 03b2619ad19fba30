/-!
# Characters of YAML text

The classes of characters that YAML text is made of, and places in such a text.
-/

namespace Outline.Yaml

/-! ## §1 Classes -/

/-- The characters a text may contain at all. -/
def isAllowed (c : Char) : Bool :=
  c == '\t' || c == '\n' || c == '\r' || (0x20 ≤ c.toNat && c.toNat ≤ 0x7E)
    || c.toNat == 0x85 || (0xA0 ≤ c.toNat && c.toNat ≤ 0xFFFD) || 0x10000 ≤ c.toNat

/-- The mark that may stand at the very beginning of a text. -/
def isByteOrderMark (c : Char) : Bool := c.toNat == 0xFEFF

/-- Line breaks: line feed, carriage return, next line, line and paragraph separator. -/
def isBreak (c : Char) : Bool :=
  c == '\n' || c == '\r' || c.toNat == 0x85 || c.toNat == 0x2028 || c.toNat == 0x2029

/-- Spaces and tabs. -/
def isBlank (c : Char) : Bool := c == ' ' || c == '\t'

/-- Blanks and line breaks. -/
def isGap (c : Char) : Bool := isBlank c || isBreak c

/-- Whether a word ends here: before a gap or at the end of the text. -/
def endsWord : List Char → Bool
  | [] => true
  | c :: _ => isGap c

/-- The characters of names: ASCII letters and digits, `_` and `-`. -/
def isNameChar (c : Char) : Bool := c.isAlphanum || c == '_' || c == '-'

/-- Whether a line starts with one of the two marks that separate documents. -/
def isDocumentMark : List Char → Bool
  | '-' :: '-' :: '-' :: rest => endsWord rest
  | '.' :: '.' :: '.' :: rest => endsWord rest
  | _ => false

/-! ## §2 Line breaks -/

/-- What a line break contributes to a text: separators stay, all others become a line
    feed. -/
def breakText (c : Char) : List Char :=
  if c.toNat == 0x2028 || c.toNat == 0x2029 then [c] else ['\n']

/-- What follows a line break, of which a carriage return may be only the first half. -/
def afterBreak (c : Char) (rest : List Char) : List Char :=
  match rest with
  | '\n' :: more => if c == '\r' then more else rest
  | _ => rest

/-- Nothing is added behind a line break. -/
theorem afterBreak_length (c : Char) (rest : List Char) :
    (afterBreak c rest).length ≤ rest.length := by
  unfold afterBreak
  split
  · split
    · simp only [List.length_cons]; omega
    · exact Nat.le_refl _
  · exact Nat.le_refl _

/-! ## §3 Places -/

/-- A place in a text. -/
structure Place where
  /-- The number of characters before it. -/
  index : Nat := 0
  /-- The number of lines before it. -/
  line : Nat := 0
  /-- The number of characters before it in its line. -/
  column : Nat := 0

namespace Place

/-- The place behind some characters. -/
def past (place : Place) : List Char → Place
  | [] => place
  | '\r' :: '\n' :: rest => past ⟨place.index + 2, place.line + 1, 0⟩ rest
  | c :: rest =>
    if isBreak c then past ⟨place.index + 1, place.line + 1, 0⟩ rest
    else past ⟨place.index + 1, place.line, place.column + 1⟩ rest

end Place

/-- A text from a place on. -/
structure Cursor where
  rest : List Char
  place : Place := {}

namespace Cursor

/-- Moves on to a later part of the text. -/
def moveTo (cursor : Cursor) (later : List Char) : Cursor :=
  ⟨later, cursor.place.past (cursor.rest.take (cursor.rest.length - later.length))⟩

end Cursor

end Outline.Yaml
