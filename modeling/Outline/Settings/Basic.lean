import Outline.Dump.Dumper
import Outline.Settings.Setting

/-!
# Typed settings

The three settings of the program, and how they are read from untyped ones. Texts may be
given as scalars of any kind, and numbers also as text.

- `Settings.ofSetting` — the settings in a table
- `SettingsError.message` — the text that reports what is wrong with them
-/

namespace Outline

/-! ## §1 Settings and errors -/

/-- What can be configured. -/
structure Settings where
  /-- Repeated once per level of depth in front of each line of a dump. -/
  indentUnit : String
  /-- The greatest depth of a node in a dump; zero stands for any depth. -/
  maxDepth : Nat
  /-- The name of the output format. -/
  format : String
deriving DecidableEq

namespace Settings

/-- The greatest depth of a node, if there is one. -/
def depthLimit (settings : Settings) : Option Nat :=
  if settings.maxDepth > 0 then some settings.maxDepth else none

/-- How trees are dumped under these settings. -/
def dumpOptions (settings : Settings) : DumpOptions :=
  ⟨settings.indentUnit, settings.depthLimit⟩

end Settings

/-- Why there are no settings. -/
inductive SettingsError where
  /-- A setting is of the wrong type. -/
  | wrongType (found : Found) (expected : String) (place : String) (file : Option String)
  /-- A table of settings is not one, or lacks a field. -/
  | mismatch (cause : Mismatch)
  /-- There is no file at the path. -/
  | notFound (path : String)
  /-- The file could not be read. -/
  | io (cause : IoFailure)
  /-- The file is no TOML document. -/
  | malformed (file : String)
  /-- The text writes no key. -/
  | invalidKey (text : String)

namespace SettingsError

/-- The text that reports the error. -/
def message : SettingsError → String
  | wrongType found expected place file =>
    (Mismatch.invalidType found expected).message ++ " for key `" ++ place ++ "`"
      ++ (match file with
        | some file => " in " ++ file
        | none => "")
  | mismatch cause => cause.message
  | notFound path => "configuration file \"" ++ path ++ "\" not found"
  | io cause => cause.message
  | malformed file => "TOML parse error in " ++ file
  | invalidKey text => "invalid key " ++ Text.quoted text

end SettingsError

/-! ## §2 Scalars -/

namespace Setting

/-- The error for a setting of the wrong type. -/
def wrongType {α : Type} (setting : Setting) (found : Found) (expected place : String) :
    Except SettingsError α :=
  .error (.wrongType found expected place setting.file)

/-- A text. Scalars of all kinds have one. -/
def text (place : String) : Setting → Except SettingsError String
  | .scalar (.string text) _ => .ok text
  | .scalar (.boolean value) _ => .ok (toString value)
  | .scalar (.integer value) _ => .ok (toString value)
  | .scalar (.float value) _ => .ok (Number.positional value)
  | setting => setting.wrongType setting.found "a string" place

/-- The number that a text stands for: a word for yes or no, or decimal digits. -/
def numberOfText? (text : String) : Option Nat :=
  let word := text.toLower
  if word = "true" ∨ word = "on" ∨ word = "yes" then some 1
  else if word = "false" ∨ word = "off" ∨ word = "no" then some 0
  else Number.natOfDecimal? (Nat.pow 2 64) text.toList

/-- A natural number below `2 ^ 64`. Fractions are rounded, half of one away from zero, and
    numbers out of range are brought to its ends. -/
def number (place : String) : Setting → Except SettingsError Nat
  | .scalar (.integer value) file =>
    if value < 0 then
      .error (.wrongType (.longInteger value) "an unsigned 64 bit or less integer" place file)
    else .ok value.toNat
  | .scalar (.boolean value) _ => .ok value.toNat
  | .scalar (.float value) _ => .ok value.round.toUInt64.toNat
  | .scalar (.string text) file =>
    match numberOfText? text with
    | some n => .ok n
    | none => .error (.wrongType (.string text) "an integer" place file)
  | setting => setting.wrongType setting.found "an integer" place

/-! ## §3 Tables -/

/-- Reads a field, if it is there. -/
def field {α : Type} (fields : List (String × Setting)) (name place : String)
    (read : String → Setting → Except SettingsError α) : Except SettingsError (Option α) :=
  match fields.lookup name with
  | none => .ok none
  | some setting => (read (place ++ "." ++ name) setting).map some

/-- A field that has to be there. -/
def needed {α : Type} (name : String) : Option α → Except SettingsError α
  | some value => .ok value
  | none => .error (.mismatch (.missingField name))

/-- How the settings of the dump are read: from the fields of a table, or from the first
    two items of an array. -/
def dumpPart : Setting → Except SettingsError (String × Nat)
  | .table fields _ => do
    let unit ← field fields "indent_unit" "dump" text
    let depth ← field fields "max_depth" "dump" number
    -- what is there is read before anything is missed
    let unit ← needed "indent_unit" unit
    let depth ← needed "max_depth" depth
    return (unit, depth)
  | .array [] _ =>
    .error (.mismatch (.invalidLength 0 "struct DumpConfig with 2 elements"))
  | .array [unit] _ => do
    let _ ← text "dump[0]" unit
    .error (.mismatch (.invalidLength 1 "struct DumpConfig with 2 elements"))
  -- further items are not looked at
  | .array (unit :: depth :: _) _ => do
    let unit ← text "dump[0]" unit
    let depth ← number "dump[1]" depth
    return (unit, depth)
  | setting => .error (.mismatch (.invalidType setting.found "struct DumpConfig"))

/-- How the settings of the output are read: from the field of a table, or from the first
    item of an array. -/
def outputPart : Setting → Except SettingsError String
  | .table fields _ => do needed "format" (← field fields "format" "output" text)
  | .array [] _ =>
    .error (.mismatch (.invalidLength 0 "struct OutputConfig with 1 element"))
  | .array (format :: _) _ => text "output[0]" format
  | setting => .error (.mismatch (.invalidType setting.found "struct OutputConfig"))

end Setting

/-- The settings in the fields of a table. -/
def Settings.ofFields (fields : List (String × Setting)) : Except SettingsError Settings := do
  let dump ← Setting.needed "dump" (fields.lookup "dump")
  let (indentUnit, maxDepth) ← dump.dumpPart
  let output ← Setting.needed "output" (fields.lookup "output")
  let format ← output.outputPart
  return { indentUnit, maxDepth, format }

/-- The settings in a setting, which has to be a table. -/
def Settings.ofSetting : Setting → Except SettingsError Settings
  | .table fields _ => ofFields fields
  | setting => .error (.mismatch (.invalidType setting.found "struct TreedumpConfig"))

end Outline
