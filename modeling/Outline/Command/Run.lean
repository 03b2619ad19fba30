import Outline.Command.Arguments
import Outline.Format.Registry
import Outline.Record.Description
import Outline.Settings.Layers

/-!
# Running the command line

A run of the program takes its arguments and the files it may read, and gives what it
writes to its two output streams and its exit code. The format `dump` goes to the output
line by line, so that lines before an error have been written; every other format is
written as a whole or not at all.

- `run` — what the program does with its arguments
- `dumpTree` — what it does with a request to dump a tree
-/

namespace Outline.Command

/-- What a run of the program leaves behind. -/
structure Outcome where
  exitCode : Nat
  output : List UInt8 := []
  errors : String := ""
deriving DecidableEq

namespace Outcome

/-- The outcome of a run that went well. -/
def success (output : List UInt8) : Outcome := ⟨0, output, ""⟩

/-- The outcome of a run that failed after some output. -/
def failure (message : String) (output : List UInt8) : Outcome :=
  ⟨1, output, "Error: " ++ message ++ "\n"⟩

/-- The outcome of a run without a task. -/
def misuse : Outcome := ⟨2, [], Topic.program.text⟩

end Outcome

/-- The layers of settings that a request names. -/
def Request.layers (request : Request) : Layers :=
  let layers : Layers := {}
  let layers := match request.config with
    | some path => layers.addFile path true
    | none => layers
  let layers := match request.indent with
    | some unit => layers.addSetting .indentUnit (.string unit)
    | none => layers
  let layers := match request.maxDepth with
    | some depth => layers.addSetting .maxDepth (.integer depth)
    | none => layers
  match request.format with
  | some format => layers.addSetting .format (.string format)
  | none => layers

/-- Writes the dump of a tree line by line. -/
def stream (options : DumpOptions) (root : Node) : Outcome :=
  match (dumpToWriter BoundedBuffer.writer options root {}).value with
  | (.ok _, buffer) => .success buffer.stored
  | (.error error, buffer) => .failure error.message buffer.stored

/-- Writes a tree in a format. An error is followed by the names of all formats. -/
def write (options : DumpOptions) (format : String) (root : Node) : Outcome :=
  let registry := (Registry.withOptions options).value
  match (registry.serialize root format).value with
  | .ok text => .success (Writer.bytesOf text)
  | .error error =>
    .failure (error.message ++ "\nAvailable formats: " ++ ", ".intercalate registry.names) []

/-- Dumps the tree at a path: first come the settings, then the tree. -/
def dumpTree (files : FileSystem) (path : String) (request : Request) : Outcome :=
  match request.layers.settings files with
  | .error error => .failure ("invalid configuration: " ++ error.message) []
  | .ok settings =>
    match (Node.ofFile files path).value with
    | .error error => .failure error.message []
    | .ok root =>
      -- the dump does not wait for its last line
      if settings.format = "dump" then stream settings.dumpOptions root
      else write settings.dumpOptions settings.format root

/-- The list of the output formats. -/
def formatList : String :=
  "Available output formats:\n\n"
    ++ String.join (Registry.withDefaults.value.formatters.map fun formatter =>
      "  " ++ formatter.name ++ "\n    " ++ formatter.description ++ "\n\n")

/-- Does a task. -/
def Task.run (files : FileSystem) : Task → Outcome
  | .help topic => .success (Writer.bytesOf topic.text)
  | .version => .success (Writer.bytesOf versionText)
  | .listFormats => .success (Writer.bytesOf formatList)
  | .dump path request => dumpTree files path request

/-- What the program does with its arguments. -/
def run (files : FileSystem) (arguments : List String) : Outcome :=
  match Task.ofArguments? arguments with
  | some task => task.run files
  | none => .misuse

end Outline.Command
