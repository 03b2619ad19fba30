import Mathlib
import Outline.Dump.Writer
import Outline.Proofs.Settings.Overlay

/-!
# Which layer decides

Layers of settings are added by calls in any order: files that have to be there, files that
need not be there, and single settings. Each of the three settings is decided by itself: by the
latest call that gives it as a single setting, else by the latest file that has it, else by the
defaults.

- `LayerCall`, `LayerCall.build` — calls, and the settings that result from them
- `Setting.Shows` — an untyped table holds typed settings
- `LayerCall.build_eq_ok` — the settings after any calls
- `settings_precedence` — which layer decides, and which calls may change places
-/

namespace Outline

/-! ## §1 Calls -/

/-- A call that adds a layer. Single settings have values of the type of the setting. -/
inductive LayerCall where
  | file (path : String)
  | optionalFile (path : String)
  | indentUnit (unit : String)
  | maxDepth (depth : UInt64)
  | format (name : String)

namespace LayerCall

/-- The key of the single setting that a call gives. -/
def key? : LayerCall → Option String
  | file _ | optionalFile _ => none
  | indentUnit _ => some "dump.indent_unit"
  | maxDepth _ => some "dump.max_depth"
  | format _ => some "output.format"

/-- Adds the layer of a call. -/
def apply (layers : Layers) : LayerCall → Except SettingsError Layers
  | file path => .ok (layers.addFile path true)
  | optionalFile path => .ok (layers.addFile path false)
  | indentUnit unit => layers.addSettingAt "dump.indent_unit" (.string unit)
  | maxDepth depth => layers.addSettingAt "dump.max_depth" (.integer depth.toNat)
  | format name => layers.addSettingAt "output.format" (.string name)

/-- The layers after some calls. -/
def layers (calls : List LayerCall) : Except SettingsError Layers := calls.foldlM apply {}

/-- The settings that result from some calls. -/
def build (files : FileSystem) (calls : List LayerCall) : Except SettingsError Settings :=
  match layers calls with
  | .error error => .error error
  | .ok layers => layers.settings files

/-! ## §2 What calls refer to -/

/-- The path of the file that a call adds. -/
def path? : LayerCall → Option String
  | file path | optionalFile path => some path
  | _ => none

/-- The fields of the file that a call adds, if there is a file at just that path. -/
def fields? (files : FileSystem) (call : LayerCall) : Option (List (String × Toml.Value)) :=
  match call.path? with
  | none => none
  | some path =>
    if files.isFile path then (files.readText path).toOption.bind Toml.document? else none

end LayerCall

/-- A text in a document. -/
def Toml.textOf? : Toml.Value → Option String
  | .string text => some text
  | _ => none

/-- A number in a document that is not negative. -/
def Toml.depthOf? : Toml.Value → Option Nat
  | .integer value => if 0 ≤ value.toInt then some value.toInt.toNat else none
  | _ => none

/-- The indentation unit in a document. -/
def Toml.indentUnit? (fields : List (String × Toml.Value)) : Option String :=
  (fieldIn? fields "dump" "indent_unit").bind textOf?

/-- The greatest depth in a document. -/
def Toml.maxDepth? (fields : List (String × Toml.Value)) : Option Nat :=
  (fieldIn? fields "dump" "max_depth").bind depthOf?

/-- The output format in a document. -/
def Toml.format? (fields : List (String × Toml.Value)) : Option String :=
  (fieldIn? fields "output" "format").bind textOf?

/-- A document with plain keys in which the tables of the settings are tables, and each setting
    that is there is of its type. -/
structure Toml.WellTyped (fields : List (String × Toml.Value)) : Prop where
  plain : ∀ field ∈ fields, IsPlainKey field.1
  tables : ∀ table ∈ ["dump", "output"], ∀ value, fields.lookup table = some value →
    ∃ inner, value = .table inner ∧ ∀ field ∈ inner, IsPlainKey field.1
  indentUnit : ∀ value, fieldIn? fields "dump" "indent_unit" = some value → (textOf? value).isSome
  maxDepth : ∀ value, fieldIn? fields "dump" "max_depth" = some value → (depthOf? value).isSome
  format : ∀ value, fieldIn? fields "output" "format" = some value → (textOf? value).isSome

namespace LayerCall

/-- There is a file at just this path, and it holds a document that is well typed. -/
def Present (files : FileSystem) (path : String) : Prop :=
  files.isFile path = true ∧ ∃ text fields, files.readText path = .ok text ∧
    Toml.document? text = some fields ∧ Toml.WellTyped fields

/-- There is no file at this path, and none with the extension of settings behind it. -/
def Absent (files : FileSystem) (path : String) : Prop :=
  files.isFile path = false ∧ files.isFile (Path.withExtension path "toml") = false

/-- The file of a call is well typed; one that is not required may also be absent. -/
def WellFormed (files : FileSystem) : LayerCall → Prop
  | file path => Present files path
  | optionalFile path => Present files path ∨ Absent files path
  | _ => True

/-! ## §3 Which layer decides -/

/-- The indentation unit that a call gives as a single setting. -/
def indentUnit? : LayerCall → Option String
  | indentUnit unit => some unit
  | _ => none

/-- The greatest depth that a call gives as a single setting. -/
def maxDepth? : LayerCall → Option Nat
  | maxDepth depth => some depth.toNat
  | _ => none

/-- The output format that a call gives as a single setting. -/
def format? : LayerCall → Option String
  | format name => some name
  | _ => none

/-- The value of a setting that its latest single setting gives, else the latest file that has
    it, else the default. -/
def decided {α : Type} (single? : LayerCall → Option α)
    (inFile? : List (String × Toml.Value) → Option α) (default : α) (files : FileSystem)
    (calls : List LayerCall) : α :=
  (calls.filterMap single?).getLast?.getD
    (((calls.filterMap (fields? files)).filterMap inFile?).getLast?.getD default)

/-- The settings with each of them decided by itself. -/
def decidedSettings (files : FileSystem) (calls : List LayerCall) : Settings where
  indentUnit := decided indentUnit? Toml.indentUnit? " " files calls
  maxDepth := decided maxDepth? Toml.maxDepth? 0 files calls
  format := decided format? Toml.format? "dump" files calls

end LayerCall

/-! ## §4 Typed settings in untyped ones -/

/-- The entries of a table are just these settings. -/
structure Setting.Shows (setting : Setting) (settings : Settings) : Prop where
  indentUnit : ∃ file, setting.fieldIn? "dump" "indent_unit" =
    some (.scalar (.string settings.indentUnit) file)
  maxDepth : ∃ file, setting.fieldIn? "dump" "max_depth" =
    some (.scalar (.integer settings.maxDepth) file)
  format : ∃ file, setting.fieldIn? "output" "format" =
    some (.scalar (.string settings.format) file)

namespace Setting

theorem shows_defaults : Layers.defaults.Shows ⟨" ", 0, "dump"⟩ :=
  ⟨⟨none, rfl⟩, ⟨none, rfl⟩, ⟨none, rfl⟩⟩

/-- A setting with an entry in a table is a table of tables. -/
theorem exists_of_fieldIn? {setting : Setting} {table name : String} {value : Setting}
    (h : setting.fieldIn? table name = some value) :
    ∃ fields file inner innerFile, setting = .table fields file ∧
      fields.lookup table = some (.table inner innerFile) ∧ inner.lookup name = some value := by
  have isTable {setting found : Setting} {name : String} (h : setting.field? name = some found) :
      ∃ fields file, setting = .table fields file ∧ fields.lookup name = some found := by
    cases setting with
    | table fields file => exact ⟨fields, file, rfl, h⟩
    | scalar _ _ => cases h
    | array _ _ => cases h
  obtain ⟨found, hFound, hValue⟩ := Option.bind_eq_some_iff.mp h
  obtain ⟨fields, file, rfl, hTable⟩ := isTable hFound
  obtain ⟨inner, innerFile, rfl, hEntry⟩ := isTable hValue
  exact ⟨fields, file, inner, innerFile, rfl, hTable, hEntry⟩

/-- Settings that are shown are read. -/
theorem Shows.ofSetting {setting : Setting} {settings : Settings} (h : setting.Shows settings) :
    Settings.ofSetting setting = .ok settings := by
  obtain ⟨⟨_, hUnit⟩, ⟨depthFile, hDepth⟩, ⟨_, hFormat⟩⟩ := h
  obtain ⟨fields, file, dump, dumpFile, rfl, hDump, hUnit⟩ := exists_of_fieldIn? hUnit
  have hDepth : dump.lookup "max_depth" =
      some (.scalar (.integer settings.maxDepth) depthFile) := by
    simpa only [fieldIn?, field?, hDump, Option.bind_some] using hDepth
  obtain ⟨_, _, output, outputFile, hSame, hOutput, hFormat⟩ := exists_of_fieldIn? hFormat
  cases hSame
  have hNumber (place : String) (file : Option String) :
      number place (.scalar (.integer settings.maxDepth) file) = .ok settings.maxDepth := by
    simp [number]
  simp only [Settings.ofSetting, Settings.ofFields, hDump, hOutput, needed, dumpPart, outputPart,
    field, hUnit, hDepth, hFormat, text, hNumber, Except.map, bind, Except.bind, pure, Except.pure]

end Setting

/-! ## §5 One more layer -/

namespace Settings

/-- The settings with those of a document laid over them. -/
def withDocument (below : Settings) (fields : List (String × Toml.Value)) : Settings where
  indentUnit := (Toml.indentUnit? fields).getD below.indentUnit
  maxDepth := (Toml.maxDepth? fields).getD below.maxDepth
  format := (Toml.format? fields).getD below.format

/-- The settings with the single setting of a call laid over them. -/
def withCall (below : Settings) (call : LayerCall) : Settings where
  indentUnit := call.indentUnit?.getD below.indentUnit
  maxDepth := call.maxDepth?.getD below.maxDepth
  format := call.format?.getD below.format

end Settings

namespace Setting

theorem ofToml_of_textOf? {value : Toml.Value} {text : String}
    (h : Toml.textOf? value = some text) (file : Option String) :
    ofToml file value = .scalar (.string text) file := by
  cases value with
  | string other =>
    cases h
    rw [ofToml]
  | _ => cases h

theorem ofToml_of_depthOf? {value : Toml.Value} {depth : Nat}
    (h : Toml.depthOf? value = some depth) (file : Option String) :
    ofToml file value = .scalar (.integer depth) file := by
  cases value with
  | integer number =>
    obtain ⟨hSign, hDepth⟩ := Option.ite_none_right_eq_some.mp h
    cases hDepth
    rw [ofToml, Int.toNat_of_nonneg hSign]
  | _ => cases h

/-- What a file lays over a scalar, where it has one of its type. -/
theorem scalar_layOver {α : Type} {scalar : α → Scalar} {read? : Toml.Value → Option α}
    (hRead : ∀ {value x}, read? value = some x → ∀ file,
      ofToml file value = .scalar (scalar x) file)
    {below : Option Setting} {found : Option Toml.Value} {x : α} (file : Option String)
    (hBelow : ∃ file, below = some (.scalar (scalar x) file))
    (hFound : ∀ value, found = some value → (read? value).isSome) :
    ∃ file', (match found with
      | some value => some (overlay (below.getD empty) (ofToml file value))
      | none => below) = some (.scalar (scalar ((found.bind read?).getD x)) file') := by
  cases found with
  | none => exact hBelow
  | some value =>
    obtain ⟨y, hy⟩ := Option.isSome_iff_exists.mp (hFound value rfl)
    exact ⟨file, by simp [hRead hy, hy, overlay]⟩

/-- A well typed document is laid over settings that are shown. -/
theorem Shows.layOver {below : Setting} {settings : Settings} (h : below.Shows settings)
    (file : Option String) {fields : List (String × Toml.Value)}
    (hKeyed : (Toml.Value.table fields).Keyed) (hTyped : Toml.WellTyped fields) :
    (SettingsFile.layOver below (fieldsOfToml file fields)).Shows
      (settings.withDocument fields) := by
  have hDump := hTyped.tables "dump" (by simp)
  have hOutput := hTyped.tables "output" (by simp)
  constructor
  · rw [fieldIn?_layOver below file hKeyed hTyped.plain hDump]
    exact scalar_layOver ofToml_of_textOf? file h.indentUnit hTyped.indentUnit
  · rw [fieldIn?_layOver below file hKeyed hTyped.plain hDump]
    exact scalar_layOver ofToml_of_depthOf? file h.maxDepth hTyped.maxDepth
  · rw [fieldIn?_layOver below file hKeyed hTyped.plain hOutput]
    exact scalar_layOver ofToml_of_textOf? file h.format hTyped.format

end Setting

namespace LayerCall

/-- The file that a call adds. -/
def source? : LayerCall → Option SettingsFile
  | file path => some ⟨path, true⟩
  | optionalFile path => some ⟨path, false⟩
  | _ => none

/-- The single setting that a call gives. -/
def override? : LayerCall → Option (Key × Scalar)
  | indentUnit unit => some (Key.indentUnit, .string unit)
  | maxDepth depth => some (Key.maxDepth, .integer depth.toNat)
  | format name => some (Key.format, .string name)
  | _ => none

/-- A single setting is laid over settings that are shown. -/
theorem shows_putAt {below : Setting} {settings : Settings} (h : below.Shows settings)
    {call : LayerCall} {key : Key} {value : Scalar} (hCall : call.override? = some (key, value)) :
    (below.putAt key (.scalar value none)).Shows (settings.withCall call) := by
  cases call with
  | file _ => cases hCall
  | optionalFile _ => cases hCall
  | indentUnit unit =>
    cases hCall
    constructor <;> simp [Key.indentUnit, Setting.fieldIn?_putAt, Settings.withCall, indentUnit?,
      maxDepth?, format?, h.maxDepth, h.format]
  | maxDepth depth =>
    cases hCall
    constructor <;> simp [Key.maxDepth, Setting.fieldIn?_putAt, Settings.withCall, indentUnit?,
      maxDepth?, format?, h.indentUnit, h.format]
  | format name =>
    cases hCall
    constructor <;> simp [Key.format, Setting.fieldIn?_putAt, Settings.withCall, indentUnit?,
      maxDepth?, format?, h.indentUnit, h.maxDepth]

theorem withCall_of_override?_none {call : LayerCall} (h : call.override? = none)
    (settings : Settings) : settings.withCall call = settings := by
  cases call <;> first | rfl | cases h

/-! ## §6 All layers -/

theorem apply_eq (layers : Layers) (call : LayerCall) :
    apply layers call =
      .ok ⟨layers.files ++ call.source?.toList, layers.overrides ++ call.override?.toList⟩ := by
  have hUnit : Key.ofText? "dump.indent_unit" = some Key.indentUnit := by decide +kernel
  have hDepth : Key.ofText? "dump.max_depth" = some Key.maxDepth := by decide +kernel
  have hFormat : Key.ofText? "output.format" = some Key.format := by decide +kernel
  cases call <;> simp [apply, Layers.addSettingAt, Layers.addSetting, Layers.addFile, source?,
    override?, hUnit, hDepth, hFormat]

/-- Files and single settings are kept apart, each in the order of the calls. -/
theorem layers_eq (calls : List LayerCall) :
    layers calls = .ok ⟨calls.filterMap source?, calls.filterMap override?⟩ := by
  have generalized (start : Layers) : calls.foldlM apply start =
      .ok ⟨start.files ++ calls.filterMap source?,
        start.overrides ++ calls.filterMap override?⟩ := by
    induction calls generalizing start with
    | nil => simp [pure, Except.pure]
    | cons call rest ih =>
      rw [List.foldlM_cons, apply_eq]
      simp only [bind, Except.bind, ih]
      cases hSource : call.source? <;> cases hOverride : call.override? <;>
        simp [hSource, hOverride]
  simpa [layers] using generalized {}

/-- The fields of a file that is present. -/
theorem fields_of_present {files : FileSystem} {path : String} (h : Present files path)
    (required : Bool) :
    ∃ name fields, (⟨path, required⟩ : SettingsFile).fields files =
        .ok (Setting.fieldsOfToml (some name) fields) ∧
      (files.readText path).toOption.bind Toml.document? = some fields ∧
      (Toml.Value.table fields).Keyed ∧ Toml.WellTyped fields := by
  obtain ⟨hFile, text, fields, hText, hFields, hTyped⟩ := h
  refine ⟨Path.normalize path, fields, ?_, ?_, Toml.document?_keyed hFields, hTyped⟩
  · simp [SettingsFile.fields, SettingsFile.content, SettingsFile.locate?, hFile, hText, hFields]
  · simp [hText, hFields, Except.toOption]

/-- The files of calls are laid over settings one by one. -/
theorem withFiles_shows {files : FileSystem} {calls : List LayerCall}
    (hCalls : ∀ call ∈ calls, call.WellFormed files) {below : Setting} {settings : Settings}
    (h : below.Shows settings) :
    ∃ above, Layers.withFiles files (calls.filterMap source?) below = .ok above ∧
      above.Shows ((calls.filterMap (fields? files)).foldl Settings.withDocument settings) := by
  induction calls generalizing below settings with
  | nil => exact ⟨below, rfl, h⟩
  | cons call rest ih =>
    rw [List.forall_mem_cons] at hCalls
    have present {path : String} (hPresent : Present files path) (required : Bool)
        (hSource : call.source? = some ⟨path, required⟩) (hPath : call.path? = some path) :
        ∃ above, Layers.withFiles files ((call :: rest).filterMap source?) below = .ok above ∧
          above.Shows
            (((call :: rest).filterMap (fields? files)).foldl Settings.withDocument settings) := by
      obtain ⟨name, fields, hFields, hText, hKeyed, hTyped⟩ := fields_of_present hPresent required
      have hFound : call.fields? files = some fields := by
        simp only [fields?, hPath, hPresent.1, if_true, hText]
      rw [List.filterMap_cons_some hSource, List.filterMap_cons_some hFound, List.foldl_cons,
        Layers.withFiles, hFields]
      exact ih hCalls.2 (h.layOver (some name) hKeyed hTyped)
    cases call with
    | file path => exact present hCalls.1 true rfl rfl
    | optionalFile path =>
      obtain hPresent | ⟨hFile, hExtended⟩ := hCalls.1
      · exact present hPresent false rfl rfl
      · have hNone : (⟨path, false⟩ : SettingsFile).fields files = .ok [] := by
          simp [SettingsFile.fields, SettingsFile.content, SettingsFile.locate?, hFile, hExtended]
        have hFound : (optionalFile path).fields? files = none := by
          simp [fields?, path?, hFile]
        have hSource : (optionalFile path).source? = some ⟨path, false⟩ := rfl
        rw [List.filterMap_cons_some hSource, List.filterMap_cons_none hFound, Layers.withFiles,
          hNone]
        exact ih hCalls.2 h
    | indentUnit _ => exact ih hCalls.2 h
    | maxDepth _ => exact ih hCalls.2 h
    | format _ => exact ih hCalls.2 h

/-- The single settings of calls are laid over settings one by one. -/
theorem withOverrides_shows (calls : List LayerCall) {below : Setting} {settings : Settings}
    (h : below.Shows settings) :
    (Layers.withOverrides (calls.filterMap override?) below).Shows
      (calls.foldl Settings.withCall settings) := by
  unfold Layers.withOverrides
  induction calls generalizing below settings with
  | nil => exact h
  | cons call rest ih =>
    rw [List.foldl_cons]
    cases hCall : call.override? with
    | none =>
      rw [List.filterMap_cons_none hCall, withCall_of_override?_none hCall]
      exact ih h
    | some setting =>
      rw [List.filterMap_cons_some hCall, List.foldl_cons]
      exact ih (shows_putAt h hCall)

/-! ## §7 The latest layer decides -/

/-- What is laid over a value step by step is the latest that was found. -/
theorem foldl_getD {α β : Type} (found? : α → Option β) (items : List α) (start : β) :
    items.foldl (fun value item => (found? item).getD value) start =
      (items.filterMap found?).getLast?.getD start := by
  induction items generalizing start with
  | nil => rfl
  | cons item rest ih =>
    rw [List.foldl_cons, ih]
    cases h : found? item with
    | none => rw [List.filterMap_cons_none h, Option.getD_none]
    | some value => simp [List.filterMap_cons_some h, List.getLast?_cons]

/-- Each setting after documents is decided by itself. -/
theorem foldl_withDocument (documents : List (List (String × Toml.Value))) (start : Settings) :
    documents.foldl Settings.withDocument start =
      { indentUnit := (documents.filterMap Toml.indentUnit?).getLast?.getD start.indentUnit
        maxDepth := (documents.filterMap Toml.maxDepth?).getLast?.getD start.maxDepth
        format := (documents.filterMap Toml.format?).getLast?.getD start.format } := by
  simp only [← foldl_getD]
  induction documents generalizing start with
  | nil => rfl
  | cons fields rest ih => rw [List.foldl_cons, ih]; rfl

/-- Each setting after single settings is decided by itself. -/
theorem foldl_withCall (calls : List LayerCall) (start : Settings) :
    calls.foldl Settings.withCall start =
      { indentUnit := (calls.filterMap indentUnit?).getLast?.getD start.indentUnit
        maxDepth := (calls.filterMap maxDepth?).getLast?.getD start.maxDepth
        format := (calls.filterMap format?).getLast?.getD start.format } := by
  simp only [← foldl_getD]
  induction calls generalizing start with
  | nil => rfl
  | cons call rest ih => rw [List.foldl_cons, ih]; rfl

/-- Well-formed calls lead to the settings that the latest layers decide. -/
theorem build_eq_ok {files : FileSystem} {calls : List LayerCall}
    (h : ∀ call ∈ calls, call.WellFormed files) :
    build files calls = .ok (decidedSettings files calls) := by
  obtain ⟨above, hAbove, hShows⟩ := withFiles_shows h Setting.shows_defaults
  have hRead := (withOverrides_shows calls hShows).ofSetting
  rw [foldl_withCall, foldl_withDocument] at hRead
  simp only [build, layers_eq, Layers.settings, hAbove]
  exact hRead

/-- Calls of which only one gives what is looked for may change places. -/
theorem filterMap_swap {α : Type} {found? : LayerCall → Option α} {a b : LayerCall}
    (h : found? a = none ∨ found? b = none) (before after : List LayerCall) :
    (before ++ b :: a :: after).filterMap found? =
      (before ++ a :: b :: after).filterMap found? := by
  simp only [List.filterMap_append, List.filterMap_cons]
  rcases h with h | h <;> simp only [h]

theorem decidedSettings_swap (files : FileSystem) {a b : LayerCall} (h : a.key? ≠ b.key?)
    (before after : List LayerCall) :
    decidedSettings files (before ++ b :: a :: after) =
      decidedSettings files (before ++ a :: b :: after) := by
  have hFields : a.fields? files = none ∨ b.fields? files = none := by
    cases a <;> cases b <;> simp_all [fields?, path?, key?]
  have hUnit : a.indentUnit? = none ∨ b.indentUnit? = none := by
    cases a <;> cases b <;> simp_all [indentUnit?, key?]
  have hDepth : a.maxDepth? = none ∨ b.maxDepth? = none := by
    cases a <;> cases b <;> simp_all [maxDepth?, key?]
  have hFormat : a.format? = none ∨ b.format? = none := by
    cases a <;> cases b <;> simp_all [format?, key?]
  simp only [decidedSettings, decided, filterMap_swap hFields, filterMap_swap hUnit,
    filterMap_swap hDepth, filterMap_swap hFormat]

/-- Well-formed calls succeed, and each setting is what its latest single setting gives, else
    the latest file that has it, else the default. Calls next to each other may change places,
    unless both add files or both give the same single setting. -/
theorem settings_precedence (files : FileSystem) (calls : List LayerCall)
    (hCalls : ∀ call ∈ calls, call.WellFormed files) :
    build files calls = .ok (decidedSettings files calls) ∧
      ∀ before a b after, calls = before ++ a :: b :: after → a.key? ≠ b.key? →
        build files (before ++ b :: a :: after) = build files calls := by
  refine ⟨build_eq_ok hCalls, ?_⟩
  rintro before a b after rfl hKeys
  have hSwapped : ∀ call ∈ before ++ b :: a :: after, call.WellFormed files := by
    intro call hCall
    apply hCalls
    simp only [List.mem_append, List.mem_cons] at hCall ⊢
    tauto
  rw [build_eq_ok hCalls, build_eq_ok hSwapped, decidedSettings_swap files hKeys]

/-- A later file has one setting of a table and keeps the other, and does not win over a single
    setting, whether that was given before it or after it. -/
theorem settings_precedence_partial_tables :
    let early := "[dump]\nindent_unit = \"..\"\nmax_depth = 9\n"
    let late := "[dump]\nmax_depth = 4\n[output]\nformat = \"other\"\n"
    let files : FileSystem := ⟨fun path => path = "early" ∨ path = "late", fun path =>
      if path = "early" then .ok (Writer.bytesOf early) else .ok (Writer.bytesOf late)⟩
    let start := [file "early", optionalFile "gone"]
    build files (start ++ [format "treeviz", file "late"]) = .ok ⟨"..", 4, "treeviz"⟩ ∧
      build files (start ++ [file "late", format "treeviz"]) =
        build files (start ++ [format "treeviz", file "late"]) := by
  intro early late files start
  have hKeys : ∀ key ∈ ["dump", "indent_unit", "max_depth", "output", "format"],
      IsPlainKey key := by
    have hBare : ∀ key ∈ ["dump", "indent_unit", "max_depth", "output", "format"],
        key.toList.all Toml.isBare = true := by decide
    have hSmall : ∀ key ∈ ["dump", "indent_unit", "max_depth", "output", "format"],
        key.toLower = key := by decide +kernel
    exact fun key hKey => ⟨List.all_eq_true.mp (hBare key hKey), hSmall key hKey⟩
  have hEarly : Present files "early" := by
    refine ⟨rfl, early, [("dump", .table [("indent_unit", .string ".."),
      ("max_depth", .integer 9)])], ?_, by cbv, ?_⟩
    · have hText : String.fromUTF8? ⟨(Writer.bytesOf early).toArray⟩ = some early := by
        decide +kernel
      simp [FileSystem.readText, files, hText]
    · constructor <;> simp [Toml.fieldIn?, List.lookup, Toml.textOf?, Toml.depthOf?, hKeys]
      rintro key _ (⟨rfl, -⟩ | ⟨rfl, -⟩) <;> exact hKeys _ (by simp)
  have hLate : Present files "late" := by
    refine ⟨rfl, late, [("dump", .table [("max_depth", .integer 4)]),
      ("output", .table [("format", .string "other")])], ?_, by cbv, ?_⟩
    · have hText : String.fromUTF8? ⟨(Writer.bytesOf late).toArray⟩ = some late := by
        decide +kernel
      simp [FileSystem.readText, files, hText]
    · constructor <;> simp [Toml.fieldIn?, List.lookup, Toml.textOf?, Toml.depthOf?, hKeys]
  have hGone : Absent files "gone" := ⟨by decide, by decide +kernel⟩
  have hCalls : ∀ call ∈ start ++ [format "treeviz", file "late"], call.WellFormed files := by
    simp [start, WellFormed, hEarly, hLate, hGone]
  obtain ⟨hBuild, hSwap⟩ := settings_precedence files _ hCalls
  refine ⟨hBuild.trans ?_, hSwap start _ _ [] rfl (by simp [key?])⟩
  have hDecided : decidedSettings files (start ++ [format "treeviz", file "late"]) =
      ⟨"..", 4, "treeviz"⟩ := by decide +kernel
  rw [hDecided]

end LayerCall

end Outline
