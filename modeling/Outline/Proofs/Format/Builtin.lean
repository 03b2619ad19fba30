import Outline.Format.Registry

/-!
# The built-in formats

The registry that a run of the program uses has three formats, in the order of their names.

- `Registry.names_withOptions` — the names
- `Registry.serialize_withOptions` — the text of a tree under each name
-/

namespace Outline

section

variable {formatter first : Formatter} {rest : List Formatter}

theorem Registry.insert_before (h : formatter.name < first.name) :
    Registry.insert formatter (first :: rest) = formatter :: first :: rest := by
  rw [Registry.insert, if_neg (String.ne_of_lt h), if_pos h]

theorem Registry.insert_after (h : first.name < formatter.name) :
    Registry.insert formatter (first :: rest) = first :: Registry.insert formatter rest := by
  rw [Registry.insert, if_neg (String.ne_of_lt h).symm, if_neg (String.lt_asymm h)]

end

theorem Registry.formatters_withOptions (options : DumpOptions) :
    (Registry.withOptions options).value.formatters = [.dump options, .json, .treeviz] := by
  have hTreeviz : "dump" < "treeviz" := by decide
  have hJson : "dump" < "json" := by decide
  have hBetween : "json" < "treeviz" := by decide
  show Registry.insert .json (Registry.insert .treeviz [.dump options]) = _
  rw [Registry.insert_after hTreeviz, Registry.insert, Registry.insert_after hJson,
    Registry.insert_before hBetween]

theorem Registry.names_withOptions (options : DumpOptions) :
    (Registry.withOptions options).value.names = ["dump", "json", "treeviz"] := by
  simp [Registry.names, Registry.formatters_withOptions, Formatter.dump, Formatter.treeviz,
    Formatter.json]

/-- Of the built-in formats only the dump can fail, and no other names are known. -/
theorem Registry.serialize_withOptions (options : DumpOptions) (root : Node) (format : String) :
    ((Registry.withOptions options).value.serialize root format).value =
      if format = "dump" then (dumpToString options root).value.mapError .dump
      else if format = "json" then .ok (Node.toJson root ++ "\n")
      else if format = "treeviz" then .ok root.drawing
      else .error (.notFound format) := by
  simp only [Registry.serialize, Registry.get?, Registry.formatters_withOptions]
  by_cases hDump : format = "dump"
  · subst hDump
    rfl
  by_cases hJson : format = "json"
  · subst hJson
    rfl
  by_cases hTreeviz : format = "treeviz"
  · subst hTreeviz
    rfl
  simp [Formatter.dump, Formatter.json, Formatter.treeviz, Ne.symm hDump, Ne.symm hJson,
    Ne.symm hTreeviz, hDump, hJson, hTreeviz, Logged.quiet]

end Outline
