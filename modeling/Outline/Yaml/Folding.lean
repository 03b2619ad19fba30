import Outline.Yaml.Character

/-!
# Folding of gaps

Scalars in one line or several keep the blanks between their words. Where lines meet, the
blanks around the line break go away, a single line break becomes a space, and of several
line breaks the first one goes away.
-/

namespace Outline.Yaml

/-- The gap before the next word of a scalar. -/
structure Folding where
  /-- The blanks, as long as there is no line break. -/
  blanks : List Char := []
  /-- What the first line break contributes, once there is one; one that is escaped
      contributes nothing. -/
  first : Option (List Char) := none
  /-- What the other line breaks contribute. -/
  others : List Char := []

namespace Folding

/-- The gap grows by a blank. -/
def addBlank (gap : Folding) (c : Char) : Folding :=
  if gap.first.isSome then gap else { gap with blanks := gap.blanks ++ [c] }

/-- The gap grows by a line break. -/
def addBreak (gap : Folding) (c : Char) : Folding :=
  match gap.first with
  | none => ⟨[], some (breakText c), []⟩
  | some _ => { gap with others := gap.others ++ breakText c }

/-- The gap of an escaped line break. -/
def escapedBreak : Folding := { first := some [] }

/-- Lines meet in the gap. -/
def hasBreak (gap : Folding) : Bool := gap.first.isSome

/-- The text that stands for the gap. -/
def text (gap : Folding) : List Char :=
  match gap.first with
  | none => gap.blanks
  | some ('\n' :: _) => if gap.others.isEmpty then [' '] else gap.others
  | some first => first ++ gap.others

end Folding

/-- Puts text in front of a scalar read after it. -/
def before {α : Type} (text : List Char) : Option (List Char × α) → Option (List Char × α)
  | some (more, rest) => some (text ++ more, rest)
  | none => none

end Outline.Yaml
