import Outline.Dump.Sink

/-!
# Byte writers

A writer takes bytes, possibly only some of those offered, and can be flushed. Lines reach
it as UTF-8 text, the line first and then its line break, so a writer that runs full keeps
the part of the line that it took.

- `Writer.writeAll` — offer bytes until all of them are taken
- `Writer.sink` — the line sink over a writer
- `BoundedBuffer` — a buffer that stores a limited number of bytes
-/

namespace Outline

/-- Takes bytes into a state of type `σ`. -/
structure Writer (σ : Type) where
  /-- Offers bytes and says how many of them were taken. -/
  write : List UInt8 → Step σ IoFailure Nat
  /-- Makes everything taken so far reach its destination. -/
  flush : Step σ IoFailure Unit

namespace Writer

variable {σ : Type}

/-- Offers bytes until all are taken. It fails when the writer fails or takes nothing. -/
def writeAll (writer : Writer σ) : List UInt8 → Step σ IoFailure Unit
  | [], state => (.ok (), state)
  | byte :: rest, state =>
    match writer.write (byte :: rest) state with
    | (.error cause, state) => (.error cause, state)
    | (.ok 0, state) => (.error .tookNothing, state)
    | (.ok (taken + 1), state) => writeAll writer (rest.drop taken) state
termination_by bytes => bytes.length
decreasing_by simp only [List.length_drop, List.length_cons]; omega

/-- The bytes of a text. -/
def bytesOf (text : String) : List UInt8 := text.toUTF8.data.toList

/-- Writes each line and then its line break. -/
def sink (writer : Writer σ) : LineSink σ where
  emit line state :=
    match writer.writeAll (bytesOf line) state with
    | (.error cause, state) => (.error (.io cause), state)
    | (.ok (), state) =>
      match writer.writeAll (bytesOf "\n") state with
      | (.error cause, state) => (.error (.io cause), state)
      | (.ok (), state) => (.ok (), state)

end Writer

/-- A buffer with room for a limited number of bytes. -/
structure BoundedBuffer where
  /-- How many bytes may be stored; without a number, all are. -/
  capacity : Option Nat := none
  /-- Whether a full buffer takes nothing instead of failing. -/
  fullTakesNothing : Bool := false
  /-- Whether flushing fails. -/
  refusesFlush : Bool := false
  /-- The bytes stored so far. -/
  stored : List UInt8 := []
  /-- How often the buffer was flushed. -/
  flushes : Nat := 0

namespace BoundedBuffer

/-- Takes as many of the bytes as there is room for. -/
def write (bytes : List UInt8) : Step BoundedBuffer IoFailure Nat := fun buffer =>
  let room := match buffer.capacity with
    | none => bytes.length
    | some capacity => capacity - buffer.stored.length
  let taken := bytes.take room
  if taken.isEmpty && !bytes.isEmpty then
    if buffer.fullTakesNothing then (.ok 0, buffer)
    else (.error (.other "sink closed"), buffer)
  else (.ok taken.length, { buffer with stored := buffer.stored ++ taken })

/-- Counts the call. -/
def flush : Step BoundedBuffer IoFailure Unit := fun buffer =>
  let buffer := { buffer with flushes := buffer.flushes + 1 }
  if buffer.refusesFlush then (.error (.other "flush refused"), buffer) else (.ok (), buffer)

/-- The writer into such buffers. -/
def writer : Writer BoundedBuffer := ⟨write, flush⟩

end BoundedBuffer

end Outline
