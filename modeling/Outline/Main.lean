import Outline.Command.Run

/-!
# The program

Reads the files that the arguments may lead to and does what `Command.run` says.
-/

namespace Outline

/-- The number of a system error, which some calls give with a minus sign. -/
def errorNumber (code : UInt32) : Nat :=
  if code.toNat < Nat.pow 2 31 then code.toNat else Nat.pow 2 32 - code.toNat

/-- The failure with the number of a system error. -/
def IoFailure.ofNumber (number : Nat) (details : String) : IoFailure :=
  match number with
  | 2 => .notFound
  | 20 => .notADirectory
  | 21 => .isADirectory
  | 36 => .nameTooLong
  | number => .other (details ++ " (os error " ++ toString number ++ ")")

/-- The failure that a system error stands for. -/
def IoFailure.ofError (error : IO.Error) : IoFailure :=
  match error with
  | .noFileOrDirectory .. => .notFound
  | .inappropriateType _ code details | .permissionDenied _ code details
  | .invalidArgument _ code details | .resourceExhausted _ code details
  | .noSuchThing _ code details => .ofNumber (errorNumber code) details
  | error => .other (toString error)

/-- The paths that a task may read. -/
def Command.Task.paths : Command.Task → List String
  | .dump path request =>
    path :: (match request.config with
      | some config => [config, Path.withExtension config "toml"]
      | none => [])
  | _ => []

/-- What reading a file gives. -/
def readNow (path : String) : IO (Except IoFailure (List UInt8)) := do
  try
    let content ← IO.FS.readBinFile path
    return .ok content.data.toList
  catch error => return .error (.ofError error)

/-- The files at paths as they are now. -/
def FileSystem.snapshot (paths : List String) : IO FileSystem := do
  let contents ← paths.mapM fun path => do return (path, ← readNow path)
  let read (path : String) := (contents.lookup path).getD (.error .notFound)
  return {
    read
    isFile := fun path => (read path).toBool }

end Outline

open Outline in
/-- Runs the program. -/
def main (arguments : List String) : IO UInt32 := do
  let paths := ((Command.Task.ofArguments? arguments).map (·.paths)).getD []
  let outcome := Command.run (← FileSystem.snapshot paths) arguments
  let output ← IO.getStdout
  output.write ⟨outcome.output.toArray⟩
  output.flush
  IO.eprint outcome.errors
  return outcome.exitCode.toUInt32
