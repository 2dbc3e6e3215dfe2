/-! # Epitaphs

When the kernel cannot go on it leaves a note of the first failure, and halts for good. The note is a flag, and
128 bytes that hold the message, cut to fit and filled with zeros. A message is a tree of pieces, since writing one
may fail half way, or fail anew: a failure within a message finds the flag up, leaves the note as far as it is
written, and halts as any failure does. What stands behind it is never written.
-/

namespace CoopKernel

/-- A byte buffer that is filled from the front; what does not fit is dropped. -/
structure NoteBuffer where
  capacity : Nat
  written : List UInt8 := []
deriving DecidableEq, Repr, Inhabited

namespace NoteBuffer

/-- Write a piece of text, as much of its UTF-8 bytes as there is room for. -/
def write (buffer : NoteBuffer) (text : String) : NoteBuffer :=
  { buffer with
    written := buffer.written ++ text.toUTF8.toList.take (buffer.capacity - buffer.written.length) }

/-- All bytes of the buffer; those not written are zero. -/
def bytes (buffer : NoteBuffer) : List UInt8 :=
  buffer.written ++ List.replicate (buffer.capacity - buffer.written.length) 0

/-- The lengths reached after each of several pieces, and the buffer at the end. -/
def writeAll (buffer : NoteBuffer) : List String → List Nat × NoteBuffer
  | [] => ([], buffer)
  | text :: rest =>
      let next := buffer.write text
      let (lengths, final) := next.writeAll rest
      (next.written.length :: lengths, final)

end NoteBuffer

/-- A piece of a message. -/
inductive Piece where
  /-- Text to write. -/
  | text (content : String)
  /-- A failure of its own, with a message of its own. -/
  | nested (message : List Piece)
  /-- Formatting stops here; what was written stays. -/
  | failure
deriving Repr, Inhabited

/-- What comes after a piece. -/
inductive Flow where
  | goesOn
  /-- The rest of the message is given up. -/
  | stops
  /-- The processor is in a halt loop. -/
  | halts
deriving DecidableEq, Repr, Inhabited

/-- How the writing of a message ends. -/
inductive Ending where
  /-- The message is complete, or formatting failed. -/
  | finished
  /-- A failure within the message halted the processor in front of these pieces. -/
  | halted (unwritten : List Piece)
deriving Repr, Inhabited

/-- What a debugger finds after a failure. -/
structure Epitaph where
  failed : Bool := false
  note : NoteBuffer := ⟨128, []⟩
deriving DecidableEq, Repr, Inhabited

namespace Epitaph

mutual

/-- Write a piece. Of failures only the first one writes, but every one halts. -/
def writePiece (epitaph : Epitaph) : Piece → Epitaph × Flow
  | .text content => ({ epitaph with note := epitaph.note.write content }, .goesOn)
  | .nested message =>
      (if epitaph.failed then epitaph else ({ epitaph with failed := true }.writePieces message).1, .halts)
  | .failure => (epitaph, .stops)

/-- Write pieces in order, up to the first one that does not go on. -/
def writePieces (epitaph : Epitaph) : List Piece → Epitaph × Ending
  | [] => (epitaph, .finished)
  | piece :: rest =>
      match epitaph.writePiece piece with
      | (next, .goesOn) => next.writePieces rest
      | (next, .stops) => (next, .finished)
      | (next, .halts) => (next, .halted rest)

end

/-- Record a failure with a message. Only the first one writes. -/
def record (epitaph : Epitaph) (message : List Piece) : Epitaph × Ending :=
  if epitaph.failed then (epitaph, .finished) else { epitaph with failed := true }.writePieces message

/-- The epitaph with which a failure halts: in its own halt loop, or in that of a failure within its message. -/
def die (epitaph : Epitaph) (message : List Piece) : Epitaph := (epitaph.record message).1

end Epitaph

/-- The processor, with the epitaph in its memory. -/
inductive Processor where
  | running (epitaph : Epitaph)
  /-- It is in a halt loop, and calls nothing any more. -/
  | halted (epitaph : Epitaph)
deriving DecidableEq, Repr, Inhabited

namespace Processor

def epitaph : Processor → Epitaph
  | running epitaph => epitaph
  | halted epitaph => epitaph

/-- Call for a failure with a message, if the processor still runs. The call does not return. -/
def die : Processor → List Piece → Processor
  | running epitaph, message => halted (epitaph.die message)
  | halted epitaph, _ => halted epitaph

end Processor

end CoopKernel
