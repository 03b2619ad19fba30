import Outline.Yaml.Plain
import Outline.Yaml.Property
import Outline.Yaml.Quoted

/-!
# Cutting text into tokens

The scanner cuts the text into tokens one at a time. Two things make it more than a list
of patterns. Indentation opens and closes block collections. And a key need not be marked:
when a colon turns up, the token at which the key began is found among those already cut,
and the mark is inserted before it. Until that is settled, the token and those behind it
are not handed out.

- `Scanner.fetch` — cut the next token
- `tokens` — all tokens that are handed out before the text ends or is refused
-/

namespace Outline.Yaml

/-! ## §1 State -/

/-- Where a key without a mark may have begun, in one flow collection or outside all. -/
structure KeySlot where
  /-- Whether there is such a place. -/
  isPossible : Bool := false
  /-- Whether it must turn out to be a key, since block indentation asks for one. -/
  isRequired : Bool := false
  /-- The number of the token that begins there. -/
  token : Nat := 0
  place : Place := {}

/-- The state of the scanner. -/
structure Scanner where
  cursor : Cursor
  /-- The column of the innermost block collection. -/
  indent : Int := -1
  /-- The columns of the block collections around it. -/
  indents : List Int := []
  /-- Whether a key without a mark may begin at the next token. -/
  keyAllowed : Bool := true
  /-- One slot for each open flow collection, the innermost first, and one for outside. -/
  keys : List KeySlot := [{}]
  /-- The tokens cut so far, the latest first. -/
  tokens : List Token := [.streamStart]

namespace Scanner

/-- Whether a flow collection is open. -/
def inFlow (scanner : Scanner) : Bool := scanner.keys.length > 1

/-- The column of the next character. -/
def column (scanner : Scanner) : Nat := scanner.cursor.place.column

/-- Adds a token. -/
def push (scanner : Scanner) (token : Token) : Scanner :=
  { scanner with tokens := token :: scanner.tokens }

/-- Inserts a token before the one with a number. -/
def insertAt (scanner : Scanner) (number : Nat) (token : Token) : Scanner :=
  let behind := scanner.tokens.length - number
  { scanner with tokens := scanner.tokens.take behind ++ token :: scanner.tokens.drop behind }

/-- Moves on to a later part of the text. -/
def moveTo (scanner : Scanner) (rest : List Char) : Scanner :=
  { scanner with cursor := scanner.cursor.moveTo rest }

/-- Says whether a key may begin next. -/
def allowKey (scanner : Scanner) (allowed : Bool) : Scanner := { scanner with keyAllowed := allowed }

/-! ## §2 Keys without a mark -/

/-- A key has to end in the line where it began, within 1024 characters. -/
def isOutdated (place : Place) (slot : KeySlot) : Bool :=
  slot.isPossible && (slot.place.line < place.line || slot.place.index + 1024 < place.index)

/-- Gives up keys that cannot be completed any more; a required one must not be given up. -/
def dropOutdated (scanner : Scanner) : Option Scanner :=
  let place := scanner.cursor.place
  -- a required key that cannot be completed is an error of the whole text
  if scanner.keys.any (fun slot => isOutdated place slot && slot.isRequired) then none
  else
    let keys := scanner.keys.map fun slot =>
      if isOutdated place slot then { slot with isPossible := false } else slot
    some { scanner with keys }

/-- Gives up the key of the innermost collection. -/
def dropKey (scanner : Scanner) : Option Scanner :=
  match scanner.keys with
  | [] => some scanner
  | slot :: outer =>
    if slot.isPossible && slot.isRequired then none
    else some { scanner with keys := { slot with isPossible := false } :: outer }

/-- Remembers that a key may begin at the next token. -/
def saveKey (scanner : Scanner) : Option Scanner :=
  if scanner.keyAllowed then
    scanner.dropKey.map fun scanner =>
      { scanner with keys := {
          isPossible := true
          isRequired := !scanner.inFlow && scanner.indent = scanner.column
          token := scanner.tokens.length
          place := scanner.cursor.place } :: scanner.keys.drop 1 }
  else some scanner

/-! ## §3 Indentation -/

/-- Opens a block collection at a column, if that is deeper than the innermost one. The
    token that marks it comes before the one with the given number, or last. -/
def openBlock (scanner : Scanner) (column : Nat) (number : Option Nat) (token : Token) : Scanner :=
  if !scanner.inFlow && scanner.indent < column then
    let scanner := { scanner with
      indents := scanner.indent :: scanner.indents, indent := (column : Int) }
    match number with
    | some number => scanner.insertAt number token
    | none => scanner.push token
  else scanner

/-- Closes the block collections deeper than a column. -/
def closeBlocks (column : Int) (indent : Int) (indents : List Int) (tokens : List Token) :
    Int × List Int × List Token :=
  if indent ≤ column then (indent, indents, tokens)
  else match indents with
    | [] => (indent, [], tokens)
    | outer :: indents => closeBlocks column outer indents (.blockEnd :: tokens)

/-- Closes the block collections deeper than a column; flow collections are not cut. -/
def unroll (scanner : Scanner) (column : Int) : Scanner :=
  if scanner.inFlow then scanner
  else
    let (indent, indents, tokens) :=
      closeBlocks column scanner.indent scanner.indents scanner.tokens
    { scanner with indent, indents, tokens }

/-! ## §4 Gaps between tokens -/

/-- Skips blanks, comments and line breaks. Outside flow collections a new line allows a
    key, and tabs are not skipped where a key may begin. -/
def skipGap (inFlow inComment keyAllowed : Bool) : List Char → Bool × List Char
  | [] => (keyAllowed, [])
  | c :: rest =>
    if isBreak c then skipGap inFlow false (keyAllowed || !inFlow) rest
    else if inComment || c = ' ' then skipGap inFlow inComment keyAllowed rest
    else if c = '\t' && (inFlow || !keyAllowed) then skipGap inFlow false keyAllowed rest
    else if c = '#' then skipGap inFlow true keyAllowed rest
    else (keyAllowed, c :: rest)

/-- Moves on to the next token. A byte order mark may come before everything else. -/
def toNextToken (scanner : Scanner) : Scanner :=
  let text := scanner.cursor.rest
  let text := match text with
    | c :: rest => if scanner.cursor.place.index = 0 && isByteOrderMark c then rest else text
    | [] => []
  let (keyAllowed, rest) := skipGap scanner.inFlow false scanner.keyAllowed text
  (scanner.moveTo rest).allowKey keyAllowed

/-! ## §5 Tokens -/

/-- Adds a token that stands for some characters and goes on behind them. -/
def take (scanner : Scanner) (token : Token) (rest : List Char) : Scanner :=
  (scanner.moveTo rest).push token

/-- A token that no key can begin at, behind all block collections. -/
def unindented (scanner : Scanner) (found : Option (Token × List Char)) : Option Scanner := do
  let scanner ← (scanner.unroll (-1)).dropKey
  let (token, rest) ← found
  return (scanner.allowKey false).take token rest

/-- The end of the text, which counts as the beginning of a line. -/
def streamEnd (scanner : Scanner) : Option Scanner :=
  let place := scanner.cursor.place
  let place := if place.column = 0 then place else ⟨place.index, place.line + 1, 0⟩
  { scanner with cursor := ⟨[], place⟩ }.unindented (some (.streamEnd, []))

/-- Opens a flow collection, which may be a key as a whole. -/
def openFlow (scanner : Scanner) (token : Token) (rest : List Char) : Option Scanner :=
  scanner.saveKey.map fun scanner =>
    ({ scanner with keys := {} :: scanner.keys }.allowKey true).take token rest

/-- Closes a flow collection, if one is open. -/
def closeFlow (scanner : Scanner) (token : Token) (rest : List Char) : Option Scanner :=
  scanner.dropKey.map fun scanner =>
    -- a closing mark too many is left to the events
    let keys := if scanner.inFlow then scanner.keys.drop 1 else scanner.keys
    ({ scanner with keys }.allowKey false).take token rest

/-- A comma between the items of a flow collection. -/
def flowEntry (scanner : Scanner) (rest : List Char) : Option Scanner :=
  scanner.dropKey.map fun scanner => (scanner.allowKey true).take .flowEntry rest

/-- A mark that opens a block collection at its column: outside flow collections it needs a
    place where a key may begin. -/
def blockMark (scanner : Scanner) (collection : Token) : Option Scanner :=
  if scanner.inFlow then some scanner
  else if scanner.keyAllowed then some (scanner.openBlock scanner.column none collection)
  else none

/-- The mark of an item of a block sequence. -/
def blockEntry (scanner : Scanner) (rest : List Char) : Option Scanner := do
  let scanner ← (← scanner.blockMark .blockSequenceStart).dropKey
  return (scanner.allowKey true).take .blockEntry rest

/-- The mark of a key. -/
def keyMark (scanner : Scanner) (rest : List Char) : Option Scanner := do
  let scanner ← (← scanner.blockMark .blockMappingStart).dropKey
  return (scanner.allowKey (!scanner.inFlow)).take .key rest

/-- Marks the token where the key of a value began, and a block mapping that begins with it. -/
def markKey (scanner : Scanner) (slot : KeySlot) : Scanner :=
  let scanner := scanner.insertAt slot.token .key
  let scanner := scanner.openBlock slot.place.column (some slot.token) .blockMappingStart
  { scanner with keys := { slot with isPossible := false } :: scanner.keys.drop 1 }

/-- The mark of a value. If a key without a mark came before it, the key gets one. -/
def valueMark (scanner : Scanner) (rest : List Char) : Option Scanner :=
  match scanner.keys with
  | slot :: _ =>
    -- the key began at a token that has been cut already
    if slot.isPossible then some (((scanner.markKey slot).allowKey false).take .value rest)
    else (scanner.blockMark .blockMappingStart).map fun scanner =>
      (scanner.allowKey (!scanner.inFlow)).take .value rest
  | [] => none

/-- An anchor, alias, tag or quoted scalar, at which a key may begin. -/
def keyLike (scanner : Scanner) (found : Option (Token × List Char)) : Option Scanner := do
  let scanner ← scanner.saveKey
  let (token, rest) ← found
  return (scanner.allowKey false).take token rest

/-- A scalar as a token. -/
def scalar (isPlain : Bool) (found : List Char × List Char) : Token × List Char :=
  (.scalar (String.ofList found.1) isPlain, found.2)

/-- A block scalar, at which no key can begin. -/
def block (scanner : Scanner) (isLiteral : Bool) (text : List Char) : Option Scanner := do
  let indent := scanner.indent
  let scanner ← scanner.dropKey
  let (token, rest) := scalar false (← blockScalar isLiteral indent text)
  return (scanner.allowKey true).take token rest

/-- A plain scalar. If it goes up to a new line, a key may begin there. -/
def plainScalar (scanner : Scanner) (text : List Char) : Option Scanner := do
  let scanner ← scanner.saveKey
  let (content, gap, rest) ←
    plain scanner.inFlow (scanner.indent + 1).toNat scanner.column false {} text
  return (scanner.allowKey gap.hasBreak).take (.scalar (String.ofList content) true) rest

/-- Marks that no plain scalar can begin with. -/
def isIndicator (c : Char) : Bool :=
  ['-', '?', ':', ',', '[', ']', '{', '}', '#', '&', '*', '!', '|', '>', '\'', '"', '%', '@',
    '`'].contains c

/-- Whether a plain scalar begins here. A dash may begin one if no blank follows it, and
    outside flow collections so may a question mark and a colon before a word. -/
def beginsPlain (inFlow : Bool) : List Char → Bool
  | [] => false
  | c :: rest =>
    (!isGap c && !isIndicator c)
      || (c = '-' && !rest.head?.any isBlank)
      || (!inFlow && (c = '?' || c = ':') && !endsWord rest)

/-- Cuts the token at the place where the scanner stands. -/
def fetchHere (scanner : Scanner) : Option Scanner :=
  let text := scanner.cursor.rest
  let inFlow := scanner.inFlow
  match text with
  | [] => scanner.streamEnd
  | c :: rest =>
    if scanner.column = 0 && c = '%' then scanner.unindented (directive rest)
    else if scanner.column = 0 && isDocumentMark text then
      scanner.unindented
        (some (if c = '-' then .documentStart else .documentEnd, text.drop 3))
    else if c = '[' then scanner.openFlow .flowSequenceStart rest
    else if c = '{' then scanner.openFlow .flowMappingStart rest
    else if c = ']' then scanner.closeFlow .flowSequenceEnd rest
    else if c = '}' then scanner.closeFlow .flowMappingEnd rest
    else if c = ',' then scanner.flowEntry rest
    else if c = '-' && endsWord rest then scanner.blockEntry rest
    else if c = '?' && (inFlow || endsWord rest) then scanner.keyMark rest
    else if c = ':' && (inFlow || endsWord rest) then scanner.valueMark rest
    else if c = '*' then
      scanner.keyLike ((anchorName rest).map fun (name, rest) => (.alias name, rest))
    else if c = '&' then
      scanner.keyLike ((anchorName rest).map fun (name, rest) => (.anchor name, rest))
    else if c = '!' then scanner.keyLike (tag inFlow text)
    else if c = '|' && !inFlow then scanner.block true rest
    else if c = '>' && !inFlow then scanner.block false rest
    else if c = '\'' then scanner.keyLike ((singleQuoted false {} rest).map (scalar false))
    else if c = '"' then scanner.keyLike ((doubleQuoted false {} rest).map (scalar false))
    else if beginsPlain inFlow text then scanner.plainScalar text
    else none

/-- Cuts the next token, after giving up outdated keys and closing block collections. -/
def fetch (scanner : Scanner) : Option Scanner := do
  let scanner ← scanner.toNextToken.dropOutdated
  let scanner ← (scanner.unroll scanner.column).fetchHere
  scanner.dropOutdated

/-! ## §6 All tokens -/

/-- The tokens that are handed out at once: those before the first one that may still turn
    out to be the beginning of a key. -/
def settled (scanner : Scanner) : List Token :=
  let tokens := scanner.tokens.reverse
  let first := scanner.keys.foldl
    (fun first slot => if slot.isPossible then min first slot.token else first) tokens.length
  tokens.take first

/-- Cuts tokens until the text ends or is refused. -/
def run : Nat → Scanner → List Token
  | 0, scanner => scanner.settled
  | fuel + 1, scanner =>
    match scanner.fetch with
    | none => scanner.settled
    | some next => if next.tokens.head? = some .streamEnd then next.tokens.reverse else run fuel next

end Scanner

/-- The tokens of a text. Those of a text that is refused end before the first one that
    cannot be handed out. Each step uses up a character, apart from the last one. -/
def tokens (text : List Char) : List Token :=
  let text := match text with
    | c :: rest => if isByteOrderMark c then rest else text
    | [] => []
  if text.all isAllowed then Scanner.run (text.length + 1) { cursor := ⟨text, {}⟩ } else []

end Outline.Yaml
