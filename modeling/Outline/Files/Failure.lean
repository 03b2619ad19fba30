/-!
# Input and output failures

Why reading a file or writing to a stream can fail, and the text that reports it.
-/

namespace Outline

/-- Why an input or output operation failed. -/
inductive IoFailure where
  /-- Nothing stands at the path. -/
  | notFound
  /-- The path goes through something that is not a directory. -/
  | notADirectory
  /-- The path leads to a directory. -/
  | isADirectory
  /-- A part of the path is too long. -/
  | nameTooLong
  /-- The path contains the character with code zero. -/
  | zeroInPath
  /-- The content is not UTF-8 text. -/
  | invalidUtf8
  /-- A writer took none of the bytes it was offered. -/
  | tookNothing
  /-- Any other failure, known by its text. -/
  | other (text : String)
deriving DecidableEq

namespace IoFailure

/-- The text that reports a failure. -/
def message : IoFailure → String
  | notFound => "No such file or directory (os error 2)"
  | notADirectory => "Not a directory (os error 20)"
  | isADirectory => "Is a directory (os error 21)"
  | nameTooLong => "File name too long (os error 36)"
  | zeroInPath => "file name contained an unexpected NUL byte"
  | invalidUtf8 => "stream did not contain valid UTF-8"
  | tookNothing => "failed to write whole buffer"
  | other text => text

end IoFailure

end Outline
