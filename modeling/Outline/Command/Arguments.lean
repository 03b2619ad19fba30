import Outline.Command.Help
import Outline.Number.Digits

/-!
# Arguments of the command line

The arguments say what is to be done. They are read from left to right, so a request for
help counts only if nothing before it was wrong.

- `Task` — what is to be done
- `Task.ofArguments?` — the task that arguments describe, if they are in order
-/

namespace Outline.Command

/-! ## §1 Tasks -/

/-- A tree to be dumped, with the settings that the arguments give. -/
structure Request where
  path : Option String := none
  format : Option String := none
  indent : Option String := none
  maxDepth : Option Nat := none
  config : Option String := none
deriving DecidableEq

/-- What the program is to do. -/
inductive Task where
  | help (topic : Topic)
  | version
  | listFormats
  /-- Dump the tree at a path. -/
  | dump (path : String) (request : Request)
deriving DecidableEq

/-! ## §2 Shapes of arguments -/

/-- What an argument looks like. -/
inductive Shape where
  /-- Two hyphens: no options follow. -/
  | separator
  /-- Two hyphens and a name, and what stands behind an equals sign. -/
  | long (name : String) (value : Option String)
  /-- A hyphen and letters. -/
  | short (letters : List Char)
  | word (text : String)

namespace Shape

/-- The shape of an argument. A single hyphen is a word. -/
def ofText (text : String) : Shape :=
  match text.toList with
  | ['-', '-'] => .separator
  | '-' :: '-' :: rest =>
    let name := String.ofList (rest.takeWhile (· != '='))
    match rest.dropWhile (· != '=') with
    | _ :: value => .long name (some (String.ofList value))
    | [] => .long name none
  | '-' :: c :: rest => .short (c :: rest)
  | _ => .word text

end Shape

/-- The value of an option as the next argument: not something that looks like an option. -/
def operand? (text : String) : Option String :=
  match Shape.ofText text with
  | .word text => some text
  | _ => none

/-! ## §3 Options -/

/-- An option with a value. -/
inductive Setter where
  | format
  | indent
  | maxDepth
  | config
deriving DecidableEq

namespace Setter

/-- The option with a name. -/
def ofName? (name : String) : Option Setter :=
  match name with
  | "format" => some .format
  | "indent" => some .indent
  | "max-depth" => some .maxDepth
  | "config" => some .config
  | _ => none

/-- The option with a letter. -/
def ofLetter? (c : Char) : Option Setter :=
  if c = 'f' then some .format else if c = 'c' then some .config else none

end Setter

/-- A depth: an integer that is not negative and below `2 ^ 32`. -/
def depthOfText? (text : String) : Option Nat :=
  match Number.int64OfDecimal? text.toList with
  | some n =>
    if 0 ≤ n.toInt ∧ n.toInt.toNat < Nat.pow 2 32 then some n.toInt.toNat else none
  | none => none

namespace Request

/-- The request with a path, unless it has one. -/
def withPath? (request : Request) (path : String) : Option Request :=
  if request.path.isNone then some { request with path := some path } else none

/-- The request with a value for an option, unless the option has one. -/
def set? (request : Request) (setter : Setter) (value : String) : Option Request :=
  match setter with
  | .format => if request.format.isNone then some { request with format := some value } else none
  | .indent => if request.indent.isNone then some { request with indent := some value } else none
  | .config => if request.config.isNone then some { request with config := some value } else none
  | .maxDepth =>
    match request.maxDepth, depthOfText? value with
    | none, some depth => some { request with maxDepth := some depth }
    | _, _ => none

/-- The task of a request, if it has a path. -/
def task? (request : Request) : Option Task := request.path.map fun path => .dump path request

/-- The task of a request to which only paths are added. -/
def withPaths? (request : Request) : List String → Option Task
  | [] => request.task?
  | path :: rest =>
    match request.withPath? path with
    | some request => request.withPaths? rest
    | none => none

/-- An option as it stands in an argument, with its value unless that is the next one. -/
def option? : Shape → Option (Setter × Option String)
  | .long name value => (Setter.ofName? name).map fun setter => (setter, value)
  | .short (c :: value) =>
    (Setter.ofLetter? c).map fun setter =>
      (setter, match value with
        | [] => none
        -- an equals sign may stand between letter and value
        | '=' :: value => some (String.ofList value)
        | value => some (String.ofList value))
  | _ => none

end Request

/-- Whether an argument asks for help. -/
def asksForHelp : Shape → Bool
  | .long name none => name = "help"
  | .short (c :: _) => c = 'h'
  | _ => false

/-! ## §4 Subcommands -/

/-- The task of the arguments behind `dump`, added to a request. -/
def dumpTask? (request : Request) : List String → Option Task
  | [] => request.task?
  | argument :: rest =>
    let shape := Shape.ofText argument
    match shape with
    -- behind it nothing is an option
    | .separator => request.withPaths? rest
    | .word text =>
      match request.withPath? text with
      | some request => dumpTask? request rest
      | none => none
    | shape =>
      if asksForHelp shape then some (.help .dump)
      else match Request.option? shape with
        | none => none
        | some (setter, some value) =>
          match request.set? setter value with
          | some request => dumpTask? request rest
          | none => none
        | some (setter, none) =>
          -- the value is the next argument
          match rest with
          | [] => none
          | value :: rest =>
            match (operand? value).bind (request.set? setter) with
            | some request => dumpTask? request rest
            | none => none

/-- The task of the arguments behind `list-formats`, of which there are none but a request
    for help. -/
def listTask? : List String → Option Task
  | [] => some .listFormats
  | argument :: rest =>
    let shape := Shape.ofText argument
    match shape with
    | .separator => if rest.isEmpty then some .listFormats else none
    | shape => if asksForHelp shape then some (.help .listFormats) else none

/-- The task of the arguments behind `help`: at most one subcommand. -/
def helpTask? : List String → Option Task
  | [] => some (.help .program)
  | [name] => (Topic.ofName? name).map .help
  | _ => none

/-- Whether an argument asks for the version. -/
def asksForVersion : Shape → Bool
  | .long name none => name = "version"
  | .short (c :: _) => c = 'V'
  | _ => false

/-- The task that arguments describe, if they are in order. -/
def Task.ofArguments? : List String → Option Task
  | [] => none
  | "dump" :: rest => dumpTask? {} rest
  | "list-formats" :: rest => listTask? rest
  | "help" :: rest => helpTask? rest
  | argument :: _ =>
    let shape := Shape.ofText argument
    if asksForHelp shape then some (.help .program)
    else if asksForVersion shape then some .version
    else none

end Outline.Command
