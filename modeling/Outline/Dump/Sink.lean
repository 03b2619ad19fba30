import Outline.Files.Failure
import Outline.Tree.Visitor

/-!
# Destinations of dump lines

A line sink takes the lines of a dump one at a time. It is a state and a step that adds a
line to it; the step may fail, and what it leaves behind when it fails is part of the
state.

- `LineSink.list`, `LineSink.text` — sinks in memory, which never fail
- `LineSink.quota` — a list that takes a given number of lines
-/

namespace Outline

/-- Why a dump failed. -/
inductive DumpError where
  /-- The sink did not take a line. -/
  | io (cause : IoFailure)
  /-- A node lies deeper than the limit. -/
  | tooDeep (depth limit : Nat)
deriving DecidableEq

namespace DumpError

/-- The text that reports a failed dump. -/
def message : DumpError → String
  | io cause => "failed to write dump output: " ++ cause.message
  | tooDeep depth limit =>
    "malformed tree: node at depth " ++ toString depth
      ++ " exceeds the depth limit of " ++ toString limit

end DumpError

/-- Takes the lines of a dump into a state of type `σ`. -/
structure LineSink (σ : Type) where
  /-- Adds one line, given without a line break. -/
  emit : String → Step σ DumpError Unit

namespace LineSink

/-- Collects the lines in a list. -/
def list : LineSink (List String) where
  emit line lines := (.ok (), lines ++ [line])

/-- Collects the lines in one text, each ended by a line break. -/
def text : LineSink String where
  emit line written := (.ok (), written ++ line ++ "\n")

end LineSink

/-- A list that takes a limited number of further lines. -/
structure LineQuota where
  /-- How many more lines are taken; without a number, every line is. -/
  remaining : Option Nat := none
  /-- The lines taken so far. -/
  lines : List String := []

namespace LineSink

/-- Takes lines up to the quota and refuses all others. -/
def quota : LineSink LineQuota where
  emit line state :=
    match state.remaining with
    | none => (.ok (), { state with lines := state.lines ++ [line] })
    | some 0 => (.error (.io (.other "sink closed")), state)
    | some (left + 1) => (.ok (), ⟨some left, state.lines ++ [line]⟩)

end LineSink

end Outline
