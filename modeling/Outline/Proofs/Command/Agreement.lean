import Outline.Command.Run
import Outline.Proofs.Dump.Streaming
import Outline.Proofs.Format.Builtin

/-!
# The command line and the library

The program prints what the library's registry of formats gives. The format `dump` does not
go through the registry: it is streamed, and the lines before a row that is too deep have
been printed when the dump fails. Nothing else is printed by a run that fails.

- `stream_eq` — the streamed dump, in terms of the dump as text
- `run_dump_agrees` — what a run prints, by the stage at which it ends
-/

namespace Outline

/-! ## §1 The streamed dump -/

namespace Command

/-- Streaming prints the dump as text; if that fails, the lines of the accepted rows have been
    printed. -/
theorem stream_eq (options : DumpOptions) (root : Node) :
    stream options root =
      match (dumpToString options root).value with
      | .ok text => .success (Writer.bytesOf text)
      | .error error => .failure error.message (Writer.bytesOf
          (DumpRow.text options.indentUnit (options.accepted (root.dumpRows 0)))) := by
  have hUnlimited : ({} : BoundedBuffer).capacity = none := rfl
  simp only [stream, Writer.dumpToWriter_value, dumpWith_value, DumpRow.fold_write_eq,
    BoundedBuffer.fold_emit_unlimited hUnlimited, Step.andThen_ok, DumpOptions.conclude,
    dumpToString_value]
  cases hExcess : options.excess? (root.dumpRows 0) with
  | some error => rfl
  | none =>
    rw [DumpOptions.accepted_of_excess? hExcess]
    rfl

/-- What a run prints in a format that is not streamed. -/
theorem write_eq (options : DumpOptions) (format : String) (root : Node) :
    write options format root =
      match ((Registry.withOptions options).value.serialize root format).value with
      | .ok text => .success (Writer.bytesOf text)
      | .error error =>
        .failure (error.message ++ "\nAvailable formats: dump, json, treeviz") [] := by
  have hNames : ", ".intercalate ["dump", "json", "treeviz"] = "dump, json, treeviz" := by rfl
  simp only [write, Registry.names_withOptions, hNames, String.append_assoc]
  rfl

/-! ## §2 Stages of a run -/

/-- The text that the registry of the library gives for a tree under the settings. -/
def rendered (settings : Settings) (root : Node) : Except FormatError String :=
  ((Registry.withOptions settings.dumpOptions).value.serialize root settings.format).value

section

variable {files : FileSystem} {path : String} {request : Request} {settings : Settings}
  {root : Node}

theorem dumpTree_of_settings_error {error : SettingsError}
    (h : request.layers.settings files = .error error) :
    dumpTree files path request = .failure ("invalid configuration: " ++ error.message) [] := by
  simp only [dumpTree, h]

theorem dumpTree_of_load_error {error : LoadError}
    (hSettings : request.layers.settings files = .ok settings)
    (hLoad : (Node.ofFile files path).value = .error error) :
    dumpTree files path request = .failure error.message [] := by
  simp only [dumpTree, hSettings, hLoad]

/-- Both ways to print a tree print the same text. -/
theorem dumpTree_of_rendered {text : String}
    (hSettings : request.layers.settings files = .ok settings)
    (hLoad : (Node.ofFile files path).value = .ok root)
    (hText : rendered settings root = .ok text) :
    dumpTree files path request = .success (Writer.bytesOf text) := by
  simp only [dumpTree, hSettings, hLoad]
  unfold rendered at hText
  by_cases hDump : settings.format = "dump"
  · rw [Registry.serialize_withOptions, if_pos hDump] at hText
    rw [if_pos hDump, stream_eq]
    cases hDumped : (dumpToString settings.dumpOptions root).value with
    | error error =>
      rw [hDumped] at hText
      cases hText
    | ok dumped =>
      rw [hDumped] at hText
      cases hText
      rfl
  · rw [if_neg hDump, write_eq, hText]

/-- A tree that is not rendered is too deep for the dump, or its format is unknown. -/
theorem dumpTree_of_not_rendered {error : FormatError}
    (hSettings : request.layers.settings files = .ok settings)
    (hLoad : (Node.ofFile files path).value = .ok root)
    (hError : rendered settings root = .error error) :
    (settings.format = "dump" ∧
      (∃ depth limit, settings.depthLimit = some limit ∧ limit < depth ∧
        error = .dump (.tooDeep depth limit)) ∧
      dumpTree files path request = .failure error.message (Writer.bytesOf
        (DumpRow.text settings.indentUnit
          (settings.dumpOptions.accepted (root.dumpRows 0))))) ∨
    (settings.format ∉ ["dump", "json", "treeviz"] ∧ error = .notFound settings.format ∧
      dumpTree files path request =
        .failure (error.message ++ "\nAvailable formats: dump, json, treeviz") []) := by
  simp only [dumpTree, hSettings, hLoad]
  unfold rendered at hError
  by_cases hDump : settings.format = "dump"
  · left
    rw [Registry.serialize_withOptions, if_pos hDump, dumpToString_value] at hError
    rw [if_pos hDump, stream_eq, dumpToString_value]
    cases hExcess : settings.dumpOptions.excess? (root.dumpRows 0) with
    | none =>
      rw [hExcess] at hError
      cases hError
    | some excess =>
      rw [hExcess] at hError
      cases hError
      obtain ⟨depth, limit, hLimit, hDeep, rfl⟩ := DumpOptions.exists_of_excess? hExcess
      exact ⟨hDump, ⟨depth, limit, hLimit, hDeep, rfl⟩, rfl⟩
  · right
    have hWrite := write_eq settings.dumpOptions settings.format root
    rw [hError] at hWrite
    rw [Registry.serialize_withOptions, if_neg hDump] at hError
    rw [if_neg hDump]
    -- the other two formats always give a text
    by_cases hJson : settings.format = "json"
    · rw [if_pos hJson] at hError
      cases hError
    by_cases hTreeviz : settings.format = "treeviz"
    · rw [if_neg hJson, if_pos hTreeviz] at hError
      cases hError
    rw [if_neg hJson, if_neg hTreeviz] at hError
    cases hError
    exact ⟨by simp [hDump, hJson, hTreeviz], rfl, hWrite⟩

end

/-- **The command line agrees with the library.** A run that is asked to dump a tree takes its
    settings, the tree and its text from the library. It succeeds exactly if all three are
    there, and then prints the text. Otherwise it reports the first of the three that is
    missing. It has printed nothing, except that of a dump that is too deep it has printed the
    lines before the first row that is too deep. -/
theorem run_dump_agrees (files : FileSystem) {arguments : List String} {path : String}
    {request : Request} (h : Task.ofArguments? arguments = some (.dump path request)) :
    let configured := request.layers.settings files
    let loaded := (Node.ofFile files path).value
    let outcome := run files arguments
    (outcome.exitCode = 0 ↔ ∃ settings root text,
      configured = .ok settings ∧ loaded = .ok root ∧ rendered settings root = .ok text) ∧
    (∀ settings root text,
      configured = .ok settings → loaded = .ok root → rendered settings root = .ok text →
        outcome = ⟨0, Writer.bytesOf text, ""⟩) ∧
    (∀ error, configured = .error error →
      outcome = ⟨1, [], "Error: " ++ ("invalid configuration: " ++ error.message) ++ "\n"⟩) ∧
    (∀ settings error, configured = .ok settings → loaded = .error error →
      outcome = ⟨1, [], "Error: " ++ error.message ++ "\n"⟩) ∧
    (∀ settings root error,
      configured = .ok settings → loaded = .ok root → rendered settings root = .error error →
        (settings.format = "dump" ∧
          (∃ depth limit, settings.depthLimit = some limit ∧ limit < depth ∧
            error = .dump (.tooDeep depth limit)) ∧
          outcome = ⟨1, Writer.bytesOf (DumpRow.text settings.indentUnit
            (settings.dumpOptions.accepted (root.dumpRows 0))),
            "Error: " ++ error.message ++ "\n"⟩) ∨
        (settings.format ∉ ["dump", "json", "treeviz"] ∧ error = .notFound settings.format ∧
          outcome = ⟨1, [], "Error: " ++
            (error.message ++ "\nAvailable formats: dump, json, treeviz") ++ "\n"⟩)) := by
  intro configured loaded outcome
  have hRun : outcome = dumpTree files path request := by
    show run files arguments = _
    simp only [run, h, Task.run]
  rw [hRun]
  refine ⟨?_, fun _ _ _ => dumpTree_of_rendered, fun _ => dumpTree_of_settings_error,
    fun _ _ => dumpTree_of_load_error, fun _ _ _ => dumpTree_of_not_rendered⟩
  constructor
  · -- a stage that fails gives the exit code one
    intro hZero
    cases hSettings : configured with
    | error error =>
      rw [dumpTree_of_settings_error hSettings] at hZero
      cases hZero
    | ok settings =>
      cases hLoad : loaded with
      | error error =>
        rw [dumpTree_of_load_error hSettings hLoad] at hZero
        cases hZero
      | ok root =>
        cases hText : rendered settings root with
        | ok text => exact ⟨settings, root, text, rfl, rfl, hText⟩
        | error error =>
          rcases dumpTree_of_not_rendered hSettings hLoad hText with
            ⟨-, -, hFailed⟩ | ⟨-, -, hFailed⟩
          · rw [hFailed] at hZero
            cases hZero
          · rw [hFailed] at hZero
            cases hZero
  · rintro ⟨settings, root, text, hSettings, hLoad, hText⟩
    rw [dumpTree_of_rendered hSettings hLoad hText]
    rfl

/-- If the second level is the last one allowed, the lines before the third are printed. -/
theorem run_dump_agrees_too_deep :
    let files : FileSystem := ⟨fun _ => true, fun _ =>
      .ok (Writer.bytesOf "[\"add\",null,null,[[\"add\",null,null,[[\"add\"]]]]]")⟩
    Task.ofArguments? ["dump", "--max-depth=1", "t.json"] =
        some (.dump "t.json" { path := some "t.json", maxDepth := some 1 }) ∧
      run files ["dump", "--max-depth=1", "t.json"] =
        ⟨1, Writer.bytesOf "Add\n Add\n",
          "Error: malformed tree: node at depth 2 exceeds the depth limit of 1\n"⟩ := by
  intro files
  let root : Node := ⟨.add, [⟨.add, [⟨.add, []⟩]⟩]⟩
  have hTask : Task.ofArguments? ["dump", "--max-depth=1", "t.json"] =
      some (.dump "t.json" { path := some "t.json", maxDepth := some 1 }) := by decide +kernel
  have hLoad : (Node.ofFile files "t.json").value = .ok root := by
    have hSome : (Node.ofFile files "t.json").value.toOption = some root := by decide +kernel
    cases hValue : (Node.ofFile files "t.json").value with
    | error error =>
      rw [hValue] at hSome
      cases hSome
    | ok loaded =>
      rw [hValue] at hSome
      exact congrArg Except.ok (Option.some.inj hSome)
  obtain ⟨-, -, -, -, hNotRendered⟩ := run_dump_agrees files hTask
  refine ⟨hTask, ?_⟩
  rcases hNotRendered ⟨" ", 1, "dump"⟩ root (.dump (.tooDeep 2 1)) rfl hLoad rfl with
    ⟨-, -, hOutcome⟩ | ⟨hUnknown, -⟩
  · rw [hOutcome]
    decide +kernel
  · exact absurd (by decide) hUnknown

end Command

end Outline
