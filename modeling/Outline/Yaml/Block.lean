import Outline.Yaml.Folding

/-!
# Block scalars

Scalars whose text is the indented lines that follow. A header tells how far they are
indented, if that is not to be seen from the first line, and what becomes of the line
breaks at the end. Literal scalars keep all other line breaks; folded ones replace single
line breaks between lines that do not begin with a blank by spaces.
-/

namespace Outline.Yaml

/-! ## §1 Header -/

/-- What becomes of the line breaks at the end. -/
inductive Chomping where
  /-- All of them go away. -/
  | strip
  /-- The first one stays. -/
  | clip
  /-- All of them stay. -/
  | keep
deriving DecidableEq

/-- Chomping and indentation of a block scalar; zero leaves the indentation open. -/
structure BlockHeader where
  chomping : Chomping := .clip
  increment : Nat := 0

/-- The chomping a sign asks for. -/
def chomping? : Char → Option Chomping
  | '+' => some .keep
  | '-' => some .strip
  | _ => none

/-- The indentation a digit asks for. -/
def increment? (c : Char) : Option Nat :=
  if c.isDigit then some (c.toNat - '0'.toNat) else none

/-- Sign and digit in any order, each at most once; an indentation of zero is refused. -/
def blockIndicators (text : List Char) : Option (BlockHeader × List Char) :=
  match text with
  | [] => some ({}, [])
  | c :: rest =>
    match chomping? c, increment? c with
    | some chomping, _ =>
      match rest with
      | [] => some ({ chomping }, [])
      | d :: more =>
        match increment? d with
        | some 0 => none
        | some increment => some (⟨chomping, increment⟩, more)
        | none => some ({ chomping }, rest)
    | none, some 0 => none
    | none, some increment =>
      match rest with
      | [] => some ({ increment }, [])
      | d :: more =>
        match chomping? d with
        | some chomping => some (⟨chomping, increment⟩, more)
        | none => some ({ increment }, rest)
    | none, none => some ({}, text)

/-- Skips blanks and a comment up to the end of the line, and the line break. Anything else
    in the line is refused. -/
def restOfLine (text : List Char) : Option (List Char) :=
  let text := text.dropWhile isBlank
  let text := match text with
    | '#' :: _ => text.dropWhile fun c => !isBreak c
    | _ => text
  match text with
  | [] => some []
  | c :: rest => if isBreak c then some (afterBreak c rest) else none

/-! ## §2 Lines -/

/-- Empty lines and the indentation of the line behind them. -/
structure Breaks where
  /-- What the empty lines contribute. -/
  text : List Char
  /-- The deepest column that spaces reach. -/
  deepest : Nat
  /-- The column of the character behind them. -/
  column : Nat
  rest : List Char

/-- Skips empty lines and indentation. Spaces count as indentation up to the column
    `indent`, or all of them if it is zero; tabs must not stand among them. -/
def breaks (indent column deepest : Nat) (text : List Char) : List Char → Option Breaks
  | [] => some ⟨text, max deepest column, column, []⟩
  | c :: rest =>
    let isIndentation := indent = 0 || column < indent
    if c = ' ' && isIndentation then breaks indent (column + 1) deepest text rest
    else if c = '\t' && isIndentation then none
    else if isBreak c then
      breaks indent 0 (max deepest column) (text ++ breakText c) (afterBreak c rest)
    else some ⟨text, max deepest column, column, c :: rest⟩
termination_by rest => rest.length
decreasing_by
  · simp only [List.length_cons]; omega
  · have := afterBreak_length c rest
    simp only [List.length_cons]; omega

/-- Helper: skipping adds nothing. -/
theorem breaks_length {indent column deepest : Nat} {text rest : List Char} {found : Breaks}
    (h : breaks indent column deepest text rest = some found) :
    found.rest.length ≤ rest.length := by
  fun_induction breaks indent column deepest text rest with
  | case1 => cases h; exact Nat.le_refl _
  | case2 column deepest text c rest _ _ ih =>
    have := ih h
    simp only [List.length_cons]; omega
  | case3 => cases h
  | case4 column deepest text c rest _ _ _ _ ih =>
    have := ih h
    have := afterBreak_length c rest
    simp only [List.length_cons]; omega
  | case5 => cases h; exact Nat.le_refl _

/-- The end of a line: what its line break contributes, and what follows. -/
def lineEnd : List Char → List Char × List Char
  | [] => ([], [])
  | c :: rest => (breakText c, afterBreak c rest)

/-- Helper: a line and its end use up characters. -/
theorem lineEnd_length (c : Char) (rest : List Char) :
    (lineEnd ((c :: rest).dropWhile fun c => !isBreak c)).2.length < (c :: rest).length := by
  have hle : ∀ l : List Char, (l.dropWhile fun c => !isBreak c).length ≤ l.length := fun l =>
    (List.dropWhile_sublist _).length_le
  have hend : ∀ l : List Char, (lineEnd l).2.length ≤ l.length - 1 := by
    intro l
    cases l with
    | nil => exact Nat.le_refl _
    | cons d more =>
      have := afterBreak_length d more
      simpa only [lineEnd, List.length_cons, Nat.add_sub_cancel] using this
  have h1 := hend ((c :: rest).dropWhile fun c => !isBreak c)
  have h2 := hle (c :: rest)
  simp only [List.length_cons] at h1 h2 ⊢
  omega

/-- What the lines of a block scalar contribute, and what is left at their end. -/
structure BlockLines where
  text : List Char
  /-- The line break of the last line. -/
  lead : List Char
  /-- The empty lines behind it. -/
  trail : List Char
  rest : List Char

/-- The lines of a block scalar that are indented by `indent`. `lead` and `trail` are the
    line break of the line before and the empty lines behind it; `afterBlank` tells whether
    that line began with a blank. -/
def blockLines (isLiteral : Bool) (indent column : Nat) (lead trail : List Char)
    (afterBlank : Bool) : List Char → Option BlockLines
  | [] => some ⟨[], lead, trail, []⟩
  | c :: rest =>
    if column ≠ indent then some ⟨[], lead, trail, c :: rest⟩
    else
      -- lines are joined by a space only where neither begins with a blank
      let isFolded := !isLiteral && lead.head? = some '\n' && !afterBlank && !isBlank c
      let joint := (if isFolded then (if trail.isEmpty then [' '] else []) else lead) ++ trail
      let line := (c :: rest).takeWhile fun c => !isBreak c
      let ending := lineEnd ((c :: rest).dropWhile fun c => !isBreak c)
      match _h : breaks indent 0 0 [] ending.2 with
      | none => none
      | some gap =>
        match blockLines isLiteral indent gap.column ending.1 gap.text (isBlank c) gap.rest with
        | none => none
        | some found => some { found with text := joint ++ line ++ found.text }
termination_by text => text.length
decreasing_by
  have h1 := breaks_length _h
  have h2 := lineEnd_length c rest
  simp only [ending] at h1
  simp only [List.length_cons] at h2 ⊢
  omega

/-! ## §3 Scalars -/

/-- A block scalar behind its first mark. `parent` is the indentation of the collection
    around it, which is negative outside all. -/
def blockScalar (isLiteral : Bool) (parent : Int) (text : List Char) :
    Option (List Char × List Char) := do
  let (header, text) ← blockIndicators text
  let text ← restOfLine text
  let asked := if header.increment = 0 then 0
    else if parent ≥ 0 then parent.toNat + header.increment else header.increment
  -- without a digit in the header the first line decides the indentation
  let gap ← breaks asked 0 0 [] text
  let indent := if asked ≠ 0 then asked else max (max gap.deepest (parent + 1).toNat) 1
  let found ← blockLines isLiteral indent gap.column [] gap.text false gap.rest
  let ending := match header.chomping with
    | .strip => []
    | .clip => found.lead
    | .keep => found.lead ++ found.trail
  return (found.text ++ ending, found.rest)

end Outline.Yaml
