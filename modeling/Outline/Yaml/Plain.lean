import Outline.Yaml.Folding

/-!
# Plain scalars

Scalars without quotes. They end before a colon that a gap follows, before a comment, and
in flow collections before brackets, braces and commas. They may go on in the next line if
it is indented far enough.
-/

namespace Outline.Yaml

/-- The marks that end a plain scalar inside flow collections. -/
def isFlowMark (c : Char) : Bool :=
  c == ',' || c == '[' || c == ']' || c == '{' || c == '}'

/-- Whether a colon inside a flow collection is followed by a mark, which is refused. -/
def isColonBeforeMark : List Char → Bool
  | ':' :: c :: _ => isFlowMark c || c == '?'
  | _ => false

/-- The text of a plain scalar, with the gap behind it. Lines after the first have to be
    indented by `indent` outside flow collections. `isFresh` tells whether a gap has just
    been passed. -/
def plain (inFlow : Bool) (indent column : Nat) (isFresh : Bool) (gap : Folding) :
    List Char → Option (List Char × Folding × List Char)
  | [] => some ([], gap, [])
  | c :: rest =>
    if isBlank c then
      -- a tab must not stand in for indentation
      if gap.hasBreak && column < indent && c = '\t' then none
      else plain inFlow indent (column + 1) true (gap.addBlank c) rest
    else if isBreak c then plain inFlow indent 0 true (gap.addBreak c) (afterBreak c rest)
    else if isFresh && ((!inFlow && column < indent)
        || (column = 0 && isDocumentMark (c :: rest)) || c = '#') then
      some ([], gap, c :: rest)
    else if inFlow && isColonBeforeMark (c :: rest) then none
    else if (c = ':' && endsWord rest) || (inFlow && isFlowMark c) then
      some ([], gap, c :: rest)
    else before (gap.text ++ [c]) (plain inFlow indent (column + 1) false {} rest)
termination_by text => text.length
decreasing_by
  · simp only [List.length_cons]; omega
  · have := afterBreak_length c rest
    simp only [List.length_cons]; omega
  · simp only [List.length_cons]; omega

end Outline.Yaml
