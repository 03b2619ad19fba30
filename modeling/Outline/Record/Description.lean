import Outline.Files.Path
import Outline.Files.System
import Outline.Json.Reader
import Outline.Yaml.Reader

/-!
# Loading descriptions

A description is text that describes a syntax tree. It is read as a record first; only
when the whole text has been read are its entries checked. The extension of a file tells
which kind of text it holds.

- `Node.ofJson`, `Node.ofYaml` — the tree that a text describes
- `Node.ofFile` — the tree that a file describes
-/

namespace Outline

/-! ## §1 Errors -/

/-- Why no tree could be loaded. -/
inductive LoadError where
  /-- The file could not be read. -/
  | io (path : String) (cause : IoFailure)
  /-- The extension of the file belongs to no kind of description. -/
  | unsupportedExtension (path : String)
  /-- The text is not a JSON description. -/
  | json (problem : Json.Problem)
  /-- The text is not a YAML description. -/
  | yaml (problem : Yaml.Problem)
  /-- An entry describes no node. -/
  | entry (error : EntryError)

namespace LoadError

/-- The text that reports the error. -/
def message : LoadError → String
  | io path cause => "failed to read " ++ path ++ ": " ++ cause.message
  | unsupportedExtension path =>
    "unsupported tree description " ++ path ++ " (expected .json, .yaml or .yml)"
  | json problem => "invalid JSON tree description: " ++ problem.message
  | yaml problem => "invalid YAML tree description: " ++ problem.message
  | entry error => error.message

end LoadError

/-! ## §2 Texts -/

/-- The tree described by a record that has been read, or the problem with reading it. -/
def Record.load {ε : Type} (wrap : ε → LoadError) (read : Except ε Record) :
    Logged (Except LoadError Node) :=
  match read with
  | .error problem => .quiet (.error (wrap problem))
  | .ok record => record.toNode.map fun result => result.mapError .entry

/-- The tree that a JSON text describes. -/
def Node.ofJson (source : String) : Logged (Except LoadError Node) :=
  Record.load .json (Record.ofJson source)

/-- The tree that a YAML text describes. -/
def Node.ofYaml (source : String) : Logged (Except LoadError Node) :=
  Record.load .yaml (Record.ofYaml source)

/-! ## §3 Files -/

/-- How the texts of files with an extension are read. The case of ASCII letters does not
    matter. -/
def readerOf? (extension : String) : Option (String → Logged (Except LoadError Node)) :=
  match extension.toLower with
  | "json" => some Node.ofJson
  | "yaml" | "yml" => some Node.ofYaml
  | _ => none

/-- The tree that a file describes. The extension is looked at before the file is. -/
def Node.ofFile (files : FileSystem) (path : String) : Logged (Except LoadError Node) :=
  match (Path.extension? path).bind readerOf? with
  | none => .quiet (.error (.unsupportedExtension path))
  | some read =>
    match files.readText path with
    | .error cause => .quiet (.error (.io path cause))
    | .ok source => (read source).after [.loading path]

end Outline
