/-!
# Paths

Paths as text, with `/` between their parts. Empty parts and parts that are a single dot
do not matter, except that a path may begin with a slash.

- `Path.fileName?` — the last part, if it is a name
- `Path.extension?` — what follows the last dot of that name
-/

namespace Outline.Path

/-- Cuts a list at every occurrence of a separator. -/
def splitAll (separator : Char) : List Char → List (List Char)
  | [] => [[]]
  | c :: rest =>
    match splitAll separator rest with
    | [] => [[c]]
    | first :: others => if c = separator then [] :: first :: others else (c :: first) :: others

/-- All parts of a path, also the empty ones. -/
def rawParts (path : String) : List String := (splitAll '/' path.toList).map String.ofList

/-- The parts of a path that matter. -/
def parts (path : String) : List String :=
  (rawParts path).filter fun part => part ≠ "" ∧ part ≠ "."

/-- Whether a path begins at the root. -/
def isAbsolute (path : String) : Bool := path.toList.head? = some '/'

/-- The path written without the parts that do not matter. -/
def normalize (path : String) : String :=
  (if isAbsolute path then "/" else "") ++ "/".intercalate (parts path)

/-- The last part of a path, if it is a name and not a step up. -/
def fileName? (path : String) : Option String :=
  (parts path).getLast?.filter (· ≠ "..")

/-- What follows the last dot of a name. A dot at the very beginning does not count. -/
def nameExtension? (name : String) : Option String :=
  let reversed := name.toList.reverse
  let extension := reversed.takeWhile (· ≠ '.')
  match reversed.drop extension.length with
  | '.' :: _ :: _ => some (String.ofList extension.reverse)
  | _ => none

/-- What follows the last dot of the name a path ends in. -/
def extension? (path : String) : Option String := (fileName? path).bind nameExtension?

/-- The path with a further extension behind its name; a path that ends in no name stays as
    it is. -/
def withExtension (path extension : String) : String :=
  match fileName? path with
  | some _ => normalize path ++ "." ++ extension
  | none => path

end Outline.Path
