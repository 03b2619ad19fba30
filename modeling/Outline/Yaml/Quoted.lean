import Outline.Number.Digits
import Outline.Yaml.Folding

/-!
# Quoted scalars

Scalars between single or double quotes. Between double quotes a backslash starts an
escape, and one before a line break takes the break away; between single quotes only a
doubled quote is special. Neither may run over a mark that separates documents.
-/

namespace Outline.Yaml

/-! ## §1 Escapes -/

/-- The character of an escape with one letter. -/
def letterEscape? (c : Char) : Option Char :=
  match c with
  | '0' => some (Char.ofNat 0x00)
  | 'a' => some (Char.ofNat 0x07)
  | 'b' => some (Char.ofNat 0x08)
  | 't' | '\t' => some '\t'
  | 'n' => some '\n'
  | 'v' => some (Char.ofNat 0x0B)
  | 'f' => some (Char.ofNat 0x0C)
  | 'r' => some '\r'
  | 'e' => some (Char.ofNat 0x1B)
  | ' ' => some ' '
  | '"' => some '"'
  | '/' => some '/'
  | '\\' => some '\\'
  | 'N' => some (Char.ofNat 0x85)
  | '_' => some (Char.ofNat 0xA0)
  | 'L' => some (Char.ofNat 0x2028)
  | 'P' => some (Char.ofNat 0x2029)
  | _ => none

/-- How many digits follow the letter of an escape by code. -/
def codeLength? (c : Char) : Option Nat :=
  match c with
  | 'x' => some 2
  | 'u' => some 4
  | 'U' => some 8
  | _ => none

/-- The character of an escape by code, the digits being given. -/
def coded? (digits : List Char) (length : Nat) : Option Char :=
  if digits.length < length then none
  else match Number.natOfDigits? 16 digits with
    | some n => if n.isValidChar then some (Char.ofNat n) else none
    | none => none

/-- An escape behind its backslash. -/
def escape? : List Char → Option (Char × List Char)
  | [] => none
  | c :: rest =>
    match codeLength? c with
    | some length => (coded? (rest.take length) length).map fun c => (c, rest.drop length)
    | none => (letterEscape? c).map fun c => (c, rest)

/-- Helper: an escape uses up characters. -/
theorem escape?_length {text rest : List Char} {c : Char}
    (h : escape? text = some (c, rest)) : rest.length < text.length := by
  cases text with
  | nil => cases h
  | cons d more =>
    simp only [escape?] at h
    split at h
    · obtain ⟨_, _, hc⟩ := Option.map_eq_some_iff.1 h
      simp only [Prod.mk.injEq] at hc
      rw [← hc.2]
      simp only [List.length_drop, List.length_cons]
      omega
    · obtain ⟨_, _, hc⟩ := Option.map_eq_some_iff.1 h
      simp only [Prod.mk.injEq] at hc
      rw [← hc.2]
      simp only [List.length_cons]
      omega

/-! ## §2 Scalars -/

/-- The text of a scalar between double quotes, behind the opening one. `gap` is the gap
    before the next word, and `atLineStart` tells whether a line has just begun. -/
def doubleQuoted (atLineStart : Bool) (gap : Folding) : List Char → Option (List Char × List Char)
  | [] => none
  | c :: rest =>
    if isBlank c then doubleQuoted false (gap.addBlank c) rest
    else if isBreak c then doubleQuoted true (gap.addBreak c) (afterBreak c rest)
    else if atLineStart && isDocumentMark (c :: rest) then none
    else if c = '"' then some (gap.text, rest)
    else if c = '\\' then
      match rest with
      | [] => none
      | d :: more =>
        if isBreak d then
          before gap.text (doubleQuoted true .escapedBreak (afterBreak d more))
        else match _h : escape? (d :: more) with
          | none => none
          | some (e, rest) => before (gap.text ++ [e]) (doubleQuoted false {} rest)
    else before (gap.text ++ [c]) (doubleQuoted false {} rest)
termination_by text => text.length
decreasing_by
  · simp only [List.length_cons]; omega
  · have := afterBreak_length c rest
    simp only [List.length_cons]; omega
  · have := afterBreak_length d more
    simp only [List.length_cons]; omega
  · have := escape?_length _h
    simp only [List.length_cons] at this ⊢; omega
  · simp only [List.length_cons]; omega

/-- The text of a scalar between single quotes, behind the opening one. -/
def singleQuoted (atLineStart : Bool) (gap : Folding) : List Char → Option (List Char × List Char)
  | [] => none
  | c :: rest =>
    if isBlank c then singleQuoted false (gap.addBlank c) rest
    else if isBreak c then singleQuoted true (gap.addBreak c) (afterBreak c rest)
    else if atLineStart && isDocumentMark (c :: rest) then none
    else if c = '\'' then
      match rest with
      | '\'' :: more => before (gap.text ++ ['\'']) (singleQuoted false {} more)
      | _ => some (gap.text, rest)
    else before (gap.text ++ [c]) (singleQuoted false {} rest)
termination_by text => text.length
decreasing_by
  · simp only [List.length_cons]; omega
  · have := afterBreak_length c rest
    simp only [List.length_cons]; omega
  · simp only [List.length_cons]; omega
  · simp only [List.length_cons]; omega

end Outline.Yaml
