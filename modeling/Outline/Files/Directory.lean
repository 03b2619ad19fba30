import Outline.Files.Path
import Outline.Files.System

/-!
# Directories in memory

A file system that consists of one working directory and what is in it. Paths are followed
part by part: every part but the last has to be a directory.
-/

namespace Outline

/-- What stands at a place in a directory. -/
inductive DirectoryEntry where
  | file (content : List UInt8)
  | directory

/-- The content of a directory, by the parts of the paths that lead there. -/
abbrev Directory := List (List String × DirectoryEntry)

namespace Directory

/-- The directory with an entry at a path, and the directories on the way to it. -/
def insert (directory : Directory) (path : String) (entry : DirectoryEntry) : Directory :=
  (Path.parts path, entry) :: directory

/-- What stands at a place; a place is a directory if something is in it. -/
def get? (directory : Directory) (place : List String) : Option DirectoryEntry :=
  if place.isEmpty then some .directory
  else match directory.lookup place with
    | some entry => some entry
    | none =>
      if directory.any (fun (other, _) => place.isPrefixOf other) then some .directory else none

/-- The longest name a part of a path may have, in bytes. -/
def maxName : Nat := 255

/-- Follows the parts of a path from a place on. Outside the working directory nothing is
    known. -/
def follow (directory : Directory) (place : List String) : List String → Except IoFailure DirectoryEntry
  | [] =>
    match directory.get? place with
    | some entry => .ok entry
    | none => .error .notFound
  | part :: rest =>
    match directory.get? place with
    | none => .error .notFound
    | some (.file _) => .error .notADirectory
    | some .directory =>
      if part = "" ∨ part = "." then follow directory place rest
      else if part = ".." then
        -- above the working directory there are only directories on the way up
        if place.isEmpty then
          if (rest.filter fun part => part ≠ "" ∧ part ≠ "." ∧ part ≠ "..").isEmpty then
            .ok .directory
          else .error .notFound
        else follow directory place.dropLast rest
      else if part.utf8ByteSize > maxName then .error .nameTooLong
      else follow directory (place ++ [part]) rest

/-- What stands at a path. -/
def resolve (directory : Directory) (path : String) : Except IoFailure DirectoryEntry :=
  if path.toList.any (·.toNat = 0) then .error .zeroInPath
  else if path = "" then .error .notFound
  else if Path.isAbsolute path then
    if (Path.parts path).isEmpty then .ok .directory else .error .notFound
  else directory.follow [] (Path.rawParts path)

/-- The file system with this working directory. -/
def fileSystem (directory : Directory) : FileSystem where
  isFile path :=
    match directory.resolve path with
    | .ok (.file _) => true
    | _ => false
  read path :=
    match directory.resolve path with
    | .ok (.file content) => .ok content
    | .ok .directory => .error .isADirectory
    | .error failure => .error failure

end Directory

end Outline
