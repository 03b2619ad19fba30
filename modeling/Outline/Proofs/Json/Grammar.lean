import Outline.Record.Basic

/-!
# The grammar of JSON descriptions

Which texts describe a record, said without reading them. Blanks may stand between any two
tokens and every string may be spelled with any escapes. A record is an object with its
fields in any order, or an array with its fields in their order. Fields that no record has
are ignored, whatever well-formed JSON they hold.

Texts are lists of characters, and each form of text is a relation between what is written
and the characters that write it.

- `StringText`, `NumberText` — strings and numbers
- `IgnoredText` — any JSON value
- `Listing` — items separated by commas
- `RecordText` — a record in which a given number of arrays and objects may be open at once
- `DescriptionText` — a record with blanks around it
-/

namespace Outline.Json

/-! ## §1 Blanks -/

/-- Any number of spaces, tabs, line feeds and carriage returns. -/
def Blanks (text : List Char) : Prop := ∀ c ∈ text, c ∈ [' ', '\t', '\n', '\r']

/-! ## §2 Strings -/

/-- A hexadecimal digit of a value; the case of letters does not matter. -/
def HexDigit (value : Nat) (c : Char) : Prop := value < 16 ∧ c.toLower = value.digitChar

/-- Four hexadecimal digits that write a number. -/
inductive FourHex : Nat → List Char → Prop where
  | digits {a b c d : Nat} {first second third fourth : Char} :
      HexDigit a first → HexDigit b second → HexDigit c third → HexDigit d fourth →
      FourHex (a * 4096 + b * 256 + c * 16 + d) [first, second, third, fourth]

/-- The letters that may follow a backslash, with the characters they stand for. -/
def shortEscapes : List (Char × Char) :=
  [('"', '"'), ('\\', '\\'), ('/', '/'), ('b', '\x08'), ('f', '\x0C'), ('n', '\n'), ('r', '\r'),
    ('t', '\t')]

/-- The ways to write a character inside a string. -/
inductive CharText : Char → List Char → Prop where
  /-- As itself, unless it is a quote, a backslash or a control character. -/
  | plain {c : Char} : 0x20 ≤ c.toNat → c ≠ '"' → c ≠ '\\' → CharText c [c]
  /-- By a letter. -/
  | short {c letter : Char} : (letter, c) ∈ shortEscapes → CharText c ['\\', letter]
  /-- By its code point, which no half of a surrogate pair is. -/
  | code {c : Char} {digits : List Char} :
      FourHex c.toNat digits → CharText c ('\\' :: 'u' :: digits)
  /-- By the two halves of its surrogate pair. -/
  | pair {c : Char} {high low : Nat} {leading trailing : List Char} :
      high < 0x400 → low < 0x400 → c.toNat = 0x10000 + high * 0x400 + low →
      FourHex (0xD800 + high) leading → FourHex (0xDC00 + low) trailing →
      CharText c ('\\' :: 'u' :: (leading ++ '\\' :: 'u' :: trailing))

/-- Characters written one after the other. -/
inductive CharsText : List Char → List Char → Prop where
  | nil : CharsText [] []
  | cons {c : Char} {chars first rest : List Char} :
      CharText c first → CharsText chars rest → CharsText (c :: chars) (first ++ rest)

/-- A string between quotes. -/
inductive StringText (string : String) : List Char → Prop where
  | quoted {inner : List Char} :
      CharsText string.toList inner → StringText string ('"' :: (inner ++ ['"']))

/-- What an ignored string may hold. Codes need not be those of characters. -/
inductive IgnoredChars : List Char → Prop where
  | nil : IgnoredChars []
  | plain {c : Char} {rest : List Char} :
      0x20 ≤ c.toNat → c ≠ '"' → c ≠ '\\' → IgnoredChars rest → IgnoredChars (c :: rest)
  | short {c letter : Char} {rest : List Char} :
      (letter, c) ∈ shortEscapes → IgnoredChars rest → IgnoredChars ('\\' :: letter :: rest)
  | code {n : Nat} {digits rest : List Char} :
      FourHex n digits → IgnoredChars rest → IgnoredChars ('\\' :: 'u' :: (digits ++ rest))

/-- An ignored string between quotes. -/
inductive IgnoredString : List Char → Prop where
  | quoted {inner : List Char} : IgnoredChars inner → IgnoredString ('"' :: (inner ++ ['"']))

/-! ## §3 Numbers -/

/-- One or more decimal digits. -/
def Digits (text : List Char) : Prop := text ≠ [] ∧ ∀ c ∈ text, c.isDigit

/-- The digits in front of the point. A zero stands alone. -/
def WholeText (text : List Char) : Prop :=
  Digits text ∧ (text.head? = some '0' → text = ['0'])

/-- Nothing, or a point and digits. -/
inductive FractionText : List Char → Prop where
  | none : FractionText []
  | point {digits : List Char} : Digits digits → FractionText ('.' :: digits)

/-- Nothing, or the letter `e` in either case, an optional sign and digits. -/
inductive ExponentText : List Char → Prop where
  | none : ExponentText []
  | power {letter : Char} {sign digits : List Char} :
      letter ∈ ['e', 'E'] → sign ∈ [[], ['+'], ['-']] → Digits digits →
      ExponentText (letter :: (sign ++ digits))

/-- A number without a sign. -/
inductive UnsignedText : List Char → Prop where
  | parts {whole fraction exponent : List Char} :
      WholeText whole → FractionText fraction → ExponentText exponent →
      UnsignedText (whole ++ (fraction ++ exponent))

/-- A number. -/
inductive NumberText : List Char → Prop where
  | positive {text : List Char} : UnsignedText text → NumberText text
  | negative {text : List Char} : UnsignedText text → NumberText ('-' :: text)

/-! ## §4 Ignored values -/

mutual
/-- A JSON value of any form and depth. -/
inductive IgnoredText : List Char → Prop where
  | word {word : List Char} :
      word ∈ [['n', 'u', 'l', 'l'], ['t', 'r', 'u', 'e'], ['f', 'a', 'l', 's', 'e']] →
      IgnoredText word
  | number {text : List Char} : NumberText text → IgnoredText text
  | string {text : List Char} : IgnoredString text → IgnoredText text
  | emptyArray {blanks : List Char} : Blanks blanks → IgnoredText ('[' :: (blanks ++ [']']))
  | array {items : List Char} : IgnoredItems items → IgnoredText ('[' :: (items ++ [']']))
  | emptyObject {blanks : List Char} : Blanks blanks → IgnoredText ('{' :: (blanks ++ ['}']))
  | object {members : List Char} :
      IgnoredMembers members → IgnoredText ('{' :: (members ++ ['}']))

/-- One or more values separated by commas. -/
inductive IgnoredItems : List Char → Prop where
  | last {before item after : List Char} :
      Blanks before → IgnoredText item → Blanks after →
      IgnoredItems (before ++ (item ++ after))
  | more {before item after rest : List Char} :
      Blanks before → IgnoredText item → Blanks after → IgnoredItems rest →
      IgnoredItems (before ++ (item ++ (after ++ ',' :: rest)))

/-- A name, a colon and a value. -/
inductive IgnoredMember : List Char → Prop where
  | keyed {name before after item : List Char} :
      IgnoredString name → Blanks before → Blanks after → IgnoredText item →
      IgnoredMember (name ++ (before ++ ':' :: (after ++ item)))

/-- One or more names with values, separated by commas. -/
inductive IgnoredMembers : List Char → Prop where
  | last {before member after : List Char} :
      Blanks before → IgnoredMember member → Blanks after →
      IgnoredMembers (before ++ (member ++ after))
  | more {before member after rest : List Char} :
      Blanks before → IgnoredMember member → Blanks after → IgnoredMembers rest →
      IgnoredMembers (before ++ (member ++ (after ++ ',' :: rest)))
end

/-! ## §5 Lists -/

/-- What follows an item of a list: blanks, or a comma and further items. -/
inductive Tail {α : Type} (Item : α → List Char → Prop) : List α → List Char → Prop where
  | done {blanks : List Char} : Blanks blanks → Tail Item [] blanks
  | next {first : α} {items : List α} {before after item rest : List Char} :
      Blanks before → Blanks after → Item first item → Tail Item items rest →
      Tail Item (first :: items) (before ++ ',' :: (after ++ (item ++ rest)))

/-- Items separated by commas, with blanks around each of them. -/
inductive Listing {α : Type} (Item : α → List Char → Prop) : List α → List Char → Prop where
  | empty {blanks : List Char} : Blanks blanks → Listing Item [] blanks
  | items {first : α} {items : List α} {before item rest : List Char} :
      Blanks before → Item first item → Tail Item items rest →
      Listing Item (first :: items) (before ++ (item ++ rest))

/-! ## §6 Records -/

/-- A field that is written for a record, with what is written. -/
inductive Field where
  | kind (kind : String)
  | name (name : Option String)
  | value (value : Option RecordValue)
  | children (children : List Record)
  /-- A field that records do not have, known by its name. -/
  | other (name : String)

namespace Field

/-- The name of a field. -/
def key : Field → String
  | kind _ => "kind"
  | name _ => "name"
  | value _ => "value"
  | children _ => "children"
  | other key => key

/-- The kind that a field gives. -/
def kind? : Field → Option String
  | kind given => some given
  | _ => none

/-- The name that a field gives, which may be none. -/
def name? : Field → Option (Option String)
  | name given => some given
  | _ => none

/-- The value that a field gives, which may be none. -/
def value? : Field → Option (Option RecordValue)
  | value given => some given
  | _ => none

/-- The children that a field gives. -/
def children? : Field → Option (List Record)
  | children given => some given
  | _ => none

end Field

/-- Either nothing is given and the value is the default, or the value is given once. -/
def AtMostOnce {α : Type} (given : List α) (default value : α) : Prop :=
  given = [value] ∨ given = [] ∧ value = default

/-- The fields are those of a record: its kind once, and each of the others at most once. -/
structure Gathers (fields : List Field) (record : Record) : Prop where
  kind : fields.filterMap Field.kind? = [record.item.kind]
  name : AtMostOnce (fields.filterMap Field.name?) none record.item.name
  value : AtMostOnce (fields.filterMap Field.value?) none record.item.value
  children : AtMostOnce (fields.filterMap Field.children?) [] record.children

/-- What may be absent is written as `null` if it is. -/
def NullOr {α : Type} (Text : α → List Char → Prop) : Option α → List Char → Prop
  | none, text => text = ['n', 'u', 'l', 'l']
  | some value, text => Text value text

/-- A value of an entry: the decimal digits of an integer, or a string. -/
def ScalarText : RecordValue → List Char → Prop
  | .int value, text => text = (toString value.toInt).toList
  | .text content, text => StringText content text

/-- What is written for a field, the children being written as `Children` says. -/
def ContentText (Children : List Record → List Char → Prop) : Field → List Char → Prop
  | .kind kind => StringText kind
  | .name name => NullOr StringText name
  | .value value => NullOr ScalarText value
  | .children children => Children children
  | .other name => fun text => name ∉ ["kind", "name", "value", "children"] ∧ IgnoredText text

/-- A field with its name and a colon. -/
inductive FieldText (Children : List Record → List Char → Prop) (field : Field) :
    List Char → Prop where
  | keyed {name before after content : List Char} :
      StringText field.key name → Blanks before → Blanks after →
      ContentText Children field content →
      FieldText Children field (name ++ (before ++ ':' :: (after ++ content)))

/-- A record as an object or as an array. In an array the fields have no names; it holds the
    first few of kind, name, value and children. -/
inductive FieldsText (Children : List Record → List Char → Prop) (record : Record) :
    List Char → Prop where
  | object {fields : List Field} {inner : List Char} :
      Gathers fields record → Listing (FieldText Children) fields inner →
      FieldsText Children record ('{' :: (inner ++ ['}']))
  | array {fields : List Field} {inner : List Char} (kind : String) (name : Option String)
      (value : Option RecordValue) (children : List Record) :
      fields <+: [.kind kind, .name name, .value value, .children children] →
      Gathers fields record → Listing (ContentText Children) fields inner →
      FieldsText Children record ('[' :: (inner ++ [']']))

mutual
/-- A record in which `room` arrays and objects of records and their children may be open
    at once, its own included. -/
def RecordText : Nat → Record → List Char → Prop
  | 0, _, _ => False
  | room + 1, record, text => FieldsText (fun records => ChildrenText room records) record text

/-- The array of children, in which `room` arrays and objects may be open at once. -/
def ChildrenText : Nat → List Record → List Char → Prop
  | 0, _, _ => False
  | room + 1, records, text =>
    ∃ inner, text = '[' :: (inner ++ [']']) ∧
      Listing (fun record => RecordText room record) records inner
end

/-- A description of a record: the record with blanks around it, and at most 127 arrays and
    objects of records and their children open at once. -/
inductive DescriptionText (record : Record) : List Char → Prop where
  | padded {before text after : List Char} :
      Blanks before → RecordText 127 record text → Blanks after →
      DescriptionText record (before ++ (text ++ after))

end Outline.Json
