import Outline.Files.Failure

/-!
# File systems

What programs see of files: whether a path leads to one, and its content.
-/

namespace Outline

/-- A state of the file system. -/
structure FileSystem where
  /-- Whether a path leads to a file. -/
  isFile : String → Bool
  /-- The content of the file at a path. -/
  read : String → Except IoFailure (List UInt8)

namespace FileSystem

/-- The content of the file at a path as text. -/
def readText (files : FileSystem) (path : String) : Except IoFailure String :=
  match files.read path with
  | .error failure => .error failure
  | .ok bytes =>
    match String.fromUTF8? ⟨bytes.toArray⟩ with
    | some text => .ok text
    | none => .error .invalidUtf8

end FileSystem

end Outline
