import Outline.Dump.Writer
import Outline.Proofs.Files.Extension
import Outline.Proofs.Record.Checking
import Outline.Record.Description

/-!
# Loading from files

A file is loaded in three stages. The extension of its path decides how it is to be read, and a
path without a suitable one is refused whatever the file system holds. Then the file is read as
text, and only after that the text is taken as a description.

- `FileSystem.ReadsText` — what reading a file as text gives
- `ReadAs` — how the texts of files with an extension are read
- `Record.loading_notMem_load`, `Record.load_ne_io` — what loading from a text never reports
- `Node.ofFile_by_extension` — the stages of loading a file
-/

namespace Outline

/-! ## §1 Files as texts -/

/-- Bytes are read as the text that they encode. -/
theorem fromUTF8?_eq_some_iff {bytes : List UInt8} {source : String} :
    String.fromUTF8? ⟨bytes.toArray⟩ = some source ↔ bytes = Writer.bytesOf source := by
  constructor
  · intro h
    unfold String.fromUTF8? at h
    split at h
    · cases h
      exact (List.toList_toArray ..).symm
    · cases h
  · rintro rfl
    exact dif_pos source.isValidUTF8

namespace FileSystem

/-- What reading a file as text gives: the text that its bytes encode, or the reason why there
    is none. -/
inductive ReadsText (files : FileSystem) (path : String) : Except IoFailure String → Prop where
  | text {source : String} : files.read path = .ok (Writer.bytesOf source) →
      ReadsText files path (.ok source)
  | unreadable {cause : IoFailure} : files.read path = .error cause →
      ReadsText files path (.error cause)
  | notText {bytes : List UInt8} : files.read path = .ok bytes →
      (∀ source, bytes ≠ Writer.bytesOf source) → ReadsText files path (.error .invalidUtf8)

theorem readText_eq_iff {files : FileSystem} {path : String} {result : Except IoFailure String} :
    files.readText path = result ↔ files.ReadsText path result := by
  have hNone {bytes : List UInt8} : String.fromUTF8? ⟨bytes.toArray⟩ = none ↔
      ∀ source, bytes ≠ Writer.bytesOf source := by
    simp only [Option.eq_none_iff_forall_ne_some, ne_eq, fromUTF8?_eq_some_iff]
  unfold readText
  constructor
  · rintro rfl
    split
    · exact .unreadable ‹_›
    · rename_i bytes hBytes
      split
      · rename_i source hSource
        rw [fromUTF8?_eq_some_iff.mp hSource] at hBytes
        exact .text hBytes
      · exact .notText hBytes (hNone.mp ‹_›)
  · intro h
    cases h with
    | text hBytes => simp only [hBytes, fromUTF8?_eq_some_iff.mpr rfl]
    | unreadable hCause => simp only [hCause]
    | notText hBytes hOther => simp only [hBytes, hNone.mpr hOther]

end FileSystem

/-! ## §2 Extensions -/

/-- The extensions of files that hold descriptions, in small letters. -/
def descriptionWords : List String := ["json", "yaml", "yml"]

/-- How the texts of files with an extension are read. -/
inductive ReadAs (extension : String) : (String → Logged (Except LoadError Node)) → Prop where
  | json : Spells "json" extension → ReadAs extension Node.ofJson
  | yaml : Spells "yaml" extension → ReadAs extension Node.ofYaml
  | yml : Spells "yml" extension → ReadAs extension Node.ofYaml

theorem toLower_eq_iff_of_mem_descriptionWords {word text : String}
    (hWord : word ∈ descriptionWords) : text.toLower = word ↔ Spells word text :=
  toLower_eq_iff_of_small (by decide) hWord

theorem ReadAs.readerOf?_eq {extension : String} {read : String → Logged (Except LoadError Node)}
    (h : ReadAs extension read) : readerOf? extension = some read := by
  have hLower {word : String} (h : Spells word extension) (hWord : word ∈ descriptionWords) :
      extension.toLower = word := (toLower_eq_iff_of_mem_descriptionWords hWord).mpr h
  unfold readerOf?
  cases h with
  | json h => simp only [hLower h (by decide)]
  | yaml h => simp only [hLower h (by decide)]
  | yml h => simp only [hLower h (by decide)]

/-- Texts of files with any other extension are not read. -/
theorem readerOf?_eq_none {extension : String}
    (h : ∀ word ∈ descriptionWords, ¬ Spells word extension) : readerOf? extension = none := by
  have hNot {word : String} (hWord : word ∈ descriptionWords) : extension.toLower ≠ word :=
    fun hSame => h word hWord ((toLower_eq_iff_of_mem_descriptionWords hWord).mp hSame)
  unfold readerOf?
  split
  · exact absurd ‹_› (hNot (by decide))
  · exact absurd ‹_› (hNot (by decide))
  · exact absurd ‹_› (hNot (by decide))
  · rfl

/-! ## §3 Texts as descriptions -/

theorem Entry.report?_ne_loading (entry : Entry) (path : String) :
    entry.report? ≠ some (.loading path) := by
  unfold report?
  split
  · split <;> simp
  · split <;> simp

namespace Record

variable {ε : Type} {wrap : ε → LoadError} {read : Except ε Record}

/-- Loading from a text reports nothing about files. -/
theorem loading_notMem_load (path : String) : .loading path ∉ (load wrap read).notices := by
  cases read with
  | error problem => exact List.not_mem_nil
  | ok record =>
    -- all that is reported here is about entries
    intro hNotice
    obtain ⟨entry, -, hReport⟩ := record.checked_toNode.exists_report? _ hNotice
    exact entry.report?_ne_loading path hReport

/-- Loading from a text does not fail for want of a file. -/
theorem load_ne_io {path : String} {cause : IoFailure}
    (hWrap : ∀ problem, wrap problem ≠ .io path cause) :
    (load wrap read).value ≠ .error (.io path cause) := by
  cases read with
  | error problem =>
    intro h
    exact hWrap problem (Except.error.inj h)
  | ok record =>
    simp only [load, Logged.map]
    cases record.toNode.value <;> simp [Except.mapError]

end Record

theorem ReadAs.loading_notMem {extension : String}
    {read : String → Logged (Except LoadError Node)} (h : ReadAs extension read)
    (source path : String) : .loading path ∉ (read source).notices := by
  cases h with
  | json | yaml | yml => exact Record.loading_notMem_load path

theorem ReadAs.ne_io {extension : String} {read : String → Logged (Except LoadError Node)}
    (h : ReadAs extension read) (source path : String) (cause : IoFailure) :
    (read source).value ≠ .error (.io path cause) := by
  cases h with
  | json | yaml | yml => exact Record.load_ne_io (by simp)

/-! ## §4 Files as descriptions -/

namespace Node

variable {path : String}

/-- A path without an extension that tells how to read the file is refused unseen. -/
theorem ofFile_of_no_reader
    (h : ∀ extension, Path.HasExtension path extension →
      ∀ word ∈ descriptionWords, ¬ Spells word extension) (files : FileSystem) :
    ofFile files path = ⟨.error (.unsupportedExtension path), []⟩ := by
  have hNone : (Path.extension? path).bind readerOf? = none := by
    rw [Option.bind_eq_none_iff]
    intro extension hExtension
    exact readerOf?_eq_none (h extension (Path.extension?_eq_some_iff.mp hExtension))
  rw [ofFile, hNone]
  rfl

/-- With such an extension, all depends on what reading the file as text gives. -/
theorem ofFile_of_reader {extension : String} {read : String → Logged (Except LoadError Node)}
    (hExtension : Path.HasExtension path extension) (hRead : ReadAs extension read)
    (files : FileSystem) :
    ofFile files path = match files.readText path with
      | .error cause => ⟨.error (.io path cause), []⟩
      | .ok source => ⟨(read source).value, .loading path :: (read source).notices⟩ := by
  have hReader : (Path.extension? path).bind readerOf? = some read := by
    rw [Path.extension?_eq_some_iff.mpr hExtension, Option.bind_some, hRead.readerOf?_eq]
  rw [ofFile, hReader]
  rfl

/-- **The extension decides before the file is read.** A path has one extension at most. Without
    one of the extensions of descriptions, in capitals or small letters, the path is refused with
    no report, and no file system makes a difference. With one, the file is read as text. If that
    fails, loading fails for just that reason, with no report. Otherwise it is reported once, and
    before all else, that the description has been read, and then the text is loaded as the
    extension tells. -/
theorem ofFile_by_extension (path : String) :
    (∀ extension other, Path.HasExtension path extension → Path.HasExtension path other →
      extension = other) ∧
    ((∀ extension, Path.HasExtension path extension →
        ∀ word ∈ ["json", "yaml", "yml"], ¬ Spells word extension) →
      ∀ files other : FileSystem,
        ofFile files path = ⟨.error (.unsupportedExtension path), []⟩ ∧
          ofFile other path = ofFile files path) ∧
    ∀ extension read, Path.HasExtension path extension → ReadAs extension read →
      ∀ files : FileSystem,
        (∃ result, files.ReadsText path result) ∧
        ((∃ cause, (ofFile files path).value = .error (.io path cause)) ↔
          ∃ cause, files.ReadsText path (.error cause)) ∧
        (∀ cause, files.ReadsText path (.error cause) →
          ofFile files path = ⟨.error (.io path cause), []⟩) ∧
        (∀ source, files.ReadsText path (.ok source) →
          ofFile files path = ⟨(read source).value, .loading path :: (read source).notices⟩ ∧
            ∀ other, .loading other ∉ (read source).notices) := by
  refine ⟨fun _ _ => Path.HasExtension.unique, ?_, ?_⟩
  · intro h files other
    exact ⟨ofFile_of_no_reader h files, by rw [ofFile_of_no_reader h, ofFile_of_no_reader h]⟩
  · intro extension read hExtension hRead files
    have hStages := ofFile_of_reader hExtension hRead files
    refine ⟨⟨_, FileSystem.readText_eq_iff.mp rfl⟩, ⟨?_, ?_⟩, ?_, ?_⟩
    · rintro ⟨cause, hCause⟩
      -- once there is a text, no error is about the file any more
      rw [hStages] at hCause
      cases hText : files.readText path with
      | error reason => exact ⟨reason, FileSystem.readText_eq_iff.mp hText⟩
      | ok source =>
        rw [hText] at hCause
        exact absurd hCause (hRead.ne_io source path cause)
    · rintro ⟨cause, hCause⟩
      rw [hStages, FileSystem.readText_eq_iff.mpr hCause]
      exact ⟨cause, rfl⟩
    · intro cause hCause
      rw [hStages, FileSystem.readText_eq_iff.mpr hCause]
    · intro source hSource
      rw [hStages, FileSystem.readText_eq_iff.mpr hSource]
      exact ⟨rfl, hRead.loading_notMem source⟩

/-- The path ends in a name with two dots and an extension in capitals, and its file is loaded,
    unless it is not text. A name that only begins with a dot has no extension. -/
theorem ofFile_by_extension_capitals :
    let path := "./trees/sum.v2.JSON/."
    let files : FileSystem := ⟨fun _ => true, fun _ => .ok (Writer.bytesOf "[\"add\"]")⟩
    let binary : FileSystem := ⟨fun _ => true, fun _ => .ok [0x22, 0xFF]⟩
    Path.HasExtension path "JSON" ∧ Spells "json" "JSON" ∧
      ofFile files path = ⟨.ok ⟨.add, []⟩, [.loading path]⟩ ∧
      ofFile binary path = ⟨.error (.io path .invalidUtf8), []⟩ ∧
      ofFile files "trees/.json" = ⟨.error (.unsupportedExtension "trees/.json"), []⟩ := by
  intro path files binary
  have hExtension : Path.HasExtension path "JSON" :=
    Path.extension?_eq_some_iff.mp (by decide +kernel)
  have hSpells : Spells "json" "JSON" := by decide
  have hUnknown : ∀ extension, Path.HasExtension "trees/.json" extension →
      ∀ word ∈ ["json", "yaml", "yml"], ¬ Spells word extension := by
    intro extension hHas
    have hNone : Path.extension? "trees/.json" = none := by decide +kernel
    rw [← Path.extension?_eq_some_iff, hNone] at hHas
    cases hHas
  obtain ⟨-, -, hReader⟩ := ofFile_by_extension path
  obtain ⟨-, -, -, hText⟩ := hReader "JSON" _ hExtension (.json hSpells) files
  obtain ⟨-, -, hUnreadable, -⟩ := hReader "JSON" _ hExtension (.json hSpells) binary
  refine ⟨hExtension, hSpells, ?_, ?_, ((ofFile_by_extension _).2.1 hUnknown files files).1⟩
  · rw [(hText "[\"add\"]" (.text rfl)).1]
    cbv
  · apply hUnreadable
    rw [← FileSystem.readText_eq_iff]
    decide +kernel

end Node

end Outline
