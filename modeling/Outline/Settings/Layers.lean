import Outline.Files.Path
import Outline.Files.System
import Outline.Settings.Basic
import Outline.Settings.Overlay
import Outline.Toml.Reader

/-!
# Layers of settings

Settings come in layers: defaults at the bottom, then files in the order in which they were
added, then single settings that win over all files, whenever they were added.

- `Layers.addFile`, `Layers.addSetting` — one more layer
- `Layers.settings` — the settings that result from all layers
-/

namespace Outline

/-- A file with settings. -/
structure SettingsFile where
  path : String
  /-- Whether it is an error that the file is not there. -/
  required : Bool
deriving DecidableEq

namespace SettingsFile

/-- The path at which a file is found: the given one, or with the extension `toml` behind
    it. -/
def locate? (source : SettingsFile) (files : FileSystem) : Option String :=
  if files.isFile source.path then some source.path
  else
    let path := Path.withExtension source.path "toml"
    if files.isFile path then some path else none

/-- The text of a file, with the path that messages name. -/
def content (source : SettingsFile) (files : FileSystem) :
    Except SettingsError (String × String) :=
  match source.locate? files with
  | none => .error (.notFound source.path)
  | some path =>
    match files.readText path with
    | .error cause => .error (.io cause)
    | .ok text => .ok (Path.normalize path, text)

/-- The fields of a file with settings. A file that is not required and not there, or not
    readable, has none. -/
def fields (source : SettingsFile) (files : FileSystem) :
    Except SettingsError (List (String × Setting)) :=
  match source.content files with
  | .error error => if source.required then .error error else .ok []
  | .ok (path, text) =>
    -- from here on a file that is not required is treated like any other
    match Toml.document? text with
    | some fields => .ok (Setting.fieldsOfToml (some path) fields)
    | none => .error (.malformed path)

/-- Lays the fields of a file over other settings. -/
def layOver (below : Setting) (fields : List (String × Setting)) : Setting :=
  fields.foldl (fun below (name, value) => below.putAt (Key.ofField name) value) below

end SettingsFile

/-- Layers over the defaults. -/
structure Layers where
  /-- Files, the first added first. -/
  files : List SettingsFile := []
  /-- Single settings, the first added first. -/
  overrides : List (Key × Scalar) := []

namespace Layers

/-- The settings below all layers. -/
def defaults : Setting :=
  .table [
    ("dump", .table [
      ("indent_unit", .scalar (.string " ") none),
      ("max_depth", .scalar (.integer 0) none)] none),
    ("output", .table [("format", .scalar (.string "dump") none)] none)] none

/-- Adds a file over the other files. -/
def addFile (layers : Layers) (path : String) (required : Bool) : Layers :=
  { layers with files := layers.files ++ [⟨path, required⟩] }

/-- Adds a single setting over everything else. -/
def addSetting (layers : Layers) (key : Key) (value : Scalar) : Layers :=
  { layers with overrides := layers.overrides ++ [(key, value)] }

/-- Adds a single setting under a key that is given as text. -/
def addSettingAt (layers : Layers) (key : String) (value : Scalar) :
    Except SettingsError Layers :=
  match Key.ofText? key with
  | some key => .ok (layers.addSetting key value)
  | none => .error (.invalidKey key)

/-- The defaults with the files laid over them. -/
def withFiles (files : FileSystem) : List SettingsFile → Setting → Except SettingsError Setting
  | [], below => .ok below
  | source :: rest, below =>
    match source.fields files with
    | .error error => .error error
    | .ok fields => withFiles files rest (SettingsFile.layOver below fields)

/-- Lays single settings over others. -/
def withOverrides (overrides : List (Key × Scalar)) (below : Setting) : Setting :=
  overrides.foldl (fun below (key, value) => below.putAt key (.scalar value none)) below

/-- The settings that result from all layers. -/
def settings (layers : Layers) (files : FileSystem) : Except SettingsError Settings :=
  match withFiles files layers.files defaults with
  | .error error => .error error
  | .ok below => Settings.ofSetting (withOverrides layers.overrides below)

end Layers

end Outline
