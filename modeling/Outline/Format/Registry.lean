import Outline.Dump.Dumper
import Outline.Format.Treeviz
import Outline.Json.Printer

/-!
# Output formats

A formatter turns a tree into text under a name. A registry holds at most one formatter
per name, in ascending order of the names.

- `Registry.register` — put in a formatter and get back the one it replaces
- `Registry.serialize` — format a tree under a name
- `Registry.withOptions` — the built-in formats `dump`, `treeviz` and `json`
-/

namespace Outline

/-! ## §1 Formatters -/

/-- Why a tree could not be formatted. -/
inductive FormatError where
  /-- No format has the name. -/
  | notFound (name : String)
  /-- The formatter refused the tree. -/
  | serialization (text : String)
  /-- The dump failed. -/
  | dump (error : DumpError)
deriving DecidableEq

namespace FormatError

/-- The text that reports the error. -/
def message : FormatError → String
  | notFound name => "Format '" ++ name ++ "' not found"
  | serialization text => "Serialization error: " ++ text
  | dump error => error.message

end FormatError

/-- A named way to turn trees into text. -/
structure Formatter where
  name : String
  description : String := ""
  serialize : Node → Logged (Except FormatError String)

namespace Formatter

/-- The indentation dump under given options. -/
def dump (options : DumpOptions) : Formatter where
  name := "dump"
  description := "Indentation-nested dump, one line per node in pre-order"
  serialize root := (dumpToString options root).map fun result => result.mapError .dump

/-- The box drawing. -/
def treeviz : Formatter where
  name := "treeviz"
  description := "Visual tree representation with box connectors and Unicode icons"
  serialize root := .quiet (.ok root.drawing)

/-- The JSON description, ended by a line break. -/
def json : Formatter where
  name := "json"
  description := "Pretty-printed JSON tree description"
  serialize root := .quiet (.ok (Node.toJson root ++ "\n"))

end Formatter

/-! ## §2 Registries -/

/-- Formatters in ascending order of their names. -/
structure Registry where
  formatters : List Formatter := []

namespace Registry

/-- Puts a formatter in its place among others, instead of one of the same name. -/
def insert (formatter : Formatter) : List Formatter → List Formatter
  | [] => [formatter]
  | first :: rest =>
    if formatter.name = first.name then formatter :: rest
    else if formatter.name < first.name then formatter :: first :: rest
    else first :: insert formatter rest

/-- The formatter of a name. -/
def get? (registry : Registry) (name : String) : Option Formatter :=
  registry.formatters.find? (·.name = name)

/-- Whether a name has a formatter. -/
def has (registry : Registry) (name : String) : Bool := (registry.get? name).isSome

/-- The names in ascending order. -/
def names (registry : Registry) : List String := registry.formatters.map (·.name)

/-- Puts in a formatter under its name; the one it replaces is returned. -/
def register (formatter : Formatter) (registry : Registry) :
    Logged (Option Formatter × Registry) :=
  ⟨(registry.get? formatter.name, ⟨insert formatter registry.formatters⟩),
    [.registering formatter.name]⟩

/-- Puts in formatters one after the other. -/
def registerEach (formatters : List Formatter) (registry : Registry) : Logged Registry :=
  formatters.foldl
    (fun logged formatter => logged.andThen fun registry => (register formatter registry).map (·.2))
    (.quiet registry)

/-- The built-in formats, the dump under given options. -/
def withOptions (options : DumpOptions) : Logged Registry :=
  registerEach [.dump options, .treeviz, .json] {}

/-- The built-in formats under the default options. -/
def withDefaults : Logged Registry := withOptions {}

/-- The text of a tree in the format of a name. -/
def serialize (registry : Registry) (root : Node) (name : String) :
    Logged (Except FormatError String) :=
  match registry.get? name with
  | some formatter => formatter.serialize root
  | none => .quiet (.error (.notFound name))

end Registry

end Outline
