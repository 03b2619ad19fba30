import Outline.Json.Text

/-!
# Skipping JSON values

Values of fields that nobody asked for are skipped. They have to be well formed but may be
nested to any depth, halves of surrogate pairs may stand alone in them, and numbers may be
of any size.
-/

namespace Outline.Json

/-- Skips an escape, behind the backslash. -/
def skipEscape : List Char → Except Problem (List Char)
  | [] => .error .endOfText
  | 'u' :: rest => (fourDigits rest).map (·.2)
  | c :: rest => if (shortEscape? c).isSome then .ok rest else .error .malformed

/-- Helper: an escape leaves less than it was given. -/
theorem skipEscape_length {text rest : List Char}
    (h : skipEscape text = .ok rest) : rest.length < text.length := by
  unfold skipEscape at h
  split at h
  · cases h
  · rename_i more
    cases hd : fourDigits more with
    | error problem => rw [hd] at h; cases h
    | ok read =>
      rw [hd] at h
      cases h
      have := fourDigits_length hd
      simp only [List.length_cons]
      omega
  · split at h
    · cases h
      simp only [List.length_cons]
      omega
    · cases h

/-- Skips a string, behind its opening quote. -/
def skipString : List Char → Except Problem (List Char)
  | [] => .error .endOfText
  | '"' :: rest => .ok rest
  | '\\' :: rest =>
    match _h : skipEscape rest with
    | .error problem => .error problem
    | .ok rest => skipString rest
  | c :: rest => if c.toNat < 0x20 then .error .malformed else skipString rest
termination_by text => text.length
decreasing_by
  · have := skipEscape_length _h
    simp only [List.length_cons]
    omega
  · simp only [List.length_cons]
    omega

/-- Skips a number, behind its sign. One that is cut off is malformed. -/
def skipNumber (text : List Char) : Except Problem (List Char) :=
  match literal text with
  | .ok (_, rest) => .ok rest
  | .error _ => .error .malformed

/-- Skips a field name and the colon behind it. -/
def skipKey (text : List Char) : Except Problem (List Char) :=
  match skipBlank text with
  | '"' :: rest => skipString rest >>= colon
  | rest => .error (stuck rest)

mutual
/-- Skips a value. -/
def skipValue : Nat → List Char → Except Problem (List Char)
  | 0, _ => .error .malformed
  | fuel + 1, text =>
    match skipBlank text with
    | 'n' :: rest => word ['u', 'l', 'l'] rest
    | 't' :: rest => word ['r', 'u', 'e'] rest
    | 'f' :: rest => word ['a', 'l', 's', 'e'] rest
    | '-' :: rest => skipNumber rest
    | '"' :: rest => skipString rest
    | '[' :: rest =>
      match skipBlank rest with
      | ']' :: rest => .ok rest
      | rest => skipItems fuel rest
    | '{' :: rest =>
      match skipBlank rest with
      | '}' :: rest => .ok rest
      | rest => skipMembers fuel rest
    | c :: rest => if c.isDigit then skipNumber (c :: rest) else .error .malformed
    | [] => .error .endOfText

/-- Skips the items of an array, of which there is at least one, and its closing bracket. -/
def skipItems : Nat → List Char → Except Problem (List Char)
  | 0, _ => .error .malformed
  | fuel + 1, text =>
    match skipValue fuel text with
    | .error problem => .error problem
    | .ok rest =>
      match skipBlank rest with
      | ']' :: rest => .ok rest
      | ',' :: rest => skipItems fuel rest
      | rest => .error (stuck rest)

/-- Skips the members of an object, of which there is at least one, and its closing brace. -/
def skipMembers : Nat → List Char → Except Problem (List Char)
  | 0, _ => .error .malformed
  | fuel + 1, text =>
    match skipKey text with
    | .error problem => .error problem
    | .ok rest =>
      match skipValue fuel rest with
      | .error problem => .error problem
      | .ok rest =>
        match skipBlank rest with
        | '}' :: rest => .ok rest
        | ',' :: rest => skipMembers fuel rest
        | rest => .error (stuck rest)
end

/-- As many steps as skipping a text can take: between two of them a character is used up,
    or one step goes from a list of items to its first item. -/
def enough (text : List Char) : Nat := 2 * text.length + 2

/-- Skips a value and the blanks before it. -/
def skipAny (text : List Char) : Except Problem (List Char) := skipValue (enough text) text

end Outline.Json
