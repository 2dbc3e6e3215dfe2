import Mathlib.Data.List.Infix
import CoopKernel.Epitaph

/-! # The note of the first failure

A buffer that is filled from the front holds the beginning of all that was written to it, however the
pieces lie across its end (`write_holding`). The note is such a buffer, and the flag is up before the first
message is written, so that a failure within the message finds it up, writes nothing, and halts. Hence a message
writes its own texts up to the first failure of formatting and the first failure within it
(`writePieces_of_failed`), and no later message writes anything (`after_cons`): nobody is left to call for one.
-/

namespace CoopKernel

/-- The UTF-8 bytes of texts, one after the other. -/
def utf8 (texts : List String) : List UInt8 := texts.flatMap fun text => text.toUTF8.toList

theorem utf8_cons (text : String) (rest : List String) : utf8 (text :: rest) = utf8 [text] ++ utf8 rest := by
  rw [utf8, List.flatMap_cons, utf8, List.flatMap_singleton, utf8]

namespace NoteBuffer

/-- A buffer to which bytes were written, as far as there was room for them. -/
def holding (size : Nat) (content : List UInt8) : NoteBuffer := ⟨size, content.take size⟩

theorem holding_nil (size : Nat) : holding size [] = ⟨size, []⟩ := congrArg (NoteBuffer.mk size) List.take_nil

theorem length_written_holding (size : Nat) (content : List UInt8) :
    (holding size content).written.length = min size content.length := List.length_take

theorem room_holding (size : Nat) (content : List UInt8) :
    size - (holding size content).written.length = size - content.length := by
  rw [length_written_holding]
  omega

theorem bytes_holding (size : Nat) (content : List UInt8) :
    (holding size content).bytes = content.take size ++ List.replicate (size - content.length) 0 :=
  congrArg (content.take size ++ List.replicate · 0) (room_holding size content)

/-- What is written goes behind what was written, and is cut where the whole is. -/
theorem write_holding (size : Nat) (content : List UInt8) (text : String) :
    (holding size content).write text = holding size (content ++ utf8 [text]) := by
  have written : content.take size ++ text.toUTF8.toList.take (size - (holding size content).written.length) =
      (content ++ utf8 [text]).take size := by
    rw [room_holding, utf8, List.flatMap_singleton, List.take_append]
  exact congrArg (NoteBuffer.mk size) written

theorem foldl_write_holding (size : Nat) (content : List UInt8) (texts : List String) :
    texts.foldl write (holding size content) = holding size (content ++ utf8 texts) := by
  induction texts generalizing content with
  | nil => exact congrArg (holding size) (List.append_nil content).symm
  | cons text rest ih => rw [List.foldl_cons, write_holding, ih, utf8_cons text rest, List.append_assoc]

/-- After each of the texts the buffer holds the beginning of those so far. -/
theorem scanl_write_holding (size : Nat) (content : List UInt8) (texts : List String) :
    texts.scanl write (holding size content) = texts.inits.map fun sofar => holding size (content ++ utf8 sofar) := by
  induction texts generalizing content with
  | nil => exact congrArg ([holding size ·]) (List.append_nil content).symm
  | cons text rest ih =>
    have shift : ∀ sofar, content ++ utf8 [text] ++ utf8 sofar = content ++ utf8 (text :: sofar) := fun sofar => by
      rw [utf8_cons text sofar, List.append_assoc]
    rw [List.scanl_cons, write_holding, ih, List.inits_cons, List.map_cons, List.map_map]
    simp only [shift]
    exact congrArg (holding size · :: _) (List.append_nil content).symm

/-- The lengths that are reached are those of the buffers in between. -/
theorem writeAll_eq (buffer : NoteBuffer) (texts : List String) : buffer.writeAll texts =
    ((texts.scanl write buffer).tail.map fun between => between.written.length, texts.foldl write buffer) := by
  induction texts generalizing buffer with
  | nil => rfl
  | cons text rest ih =>
    have first : rest.scanl write (buffer.write text) =
        buffer.write text :: (rest.scanl write (buffer.write text)).tail := by
      cases rest <;> simp only [List.scanl_nil, List.scanl_cons, List.tail_cons]
    rw [writeAll, ih, List.scanl_cons, List.tail_cons, List.foldl_cons, first, List.map_cons, List.tail_cons]

theorem foldl_write (size : Nat) (texts : List String) :
    texts.foldl write ⟨size, []⟩ = holding size (utf8 texts) := by
  rw [← holding_nil, foldl_write_holding, List.nil_append]

theorem scanl_write (size : Nat) (texts : List String) :
    texts.scanl write ⟨size, []⟩ = texts.inits.map fun sofar => holding size (utf8 sofar) := by
  rw [← holding_nil, scanl_write_holding]
  rfl

theorem writeAll_empty (size : Nat) (texts : List String) : writeAll ⟨size, []⟩ texts =
    (texts.inits.tail.map fun sofar => min size (utf8 sofar).length, holding size (utf8 texts)) := by
  have lengths : (fun between : NoteBuffer => between.written.length) ∘ (fun sofar => holding size (utf8 sofar)) =
      fun sofar => min size (utf8 sofar).length := funext fun sofar => length_written_holding size (utf8 sofar)
  rw [writeAll_eq, scanl_write, foldl_write, ← List.map_tail, List.map_map, lengths]

end NoteBuffer

/-- The texts of a message itself, up to the first failure of formatting. -/
def ownTexts : List Piece → List String
  | .text content :: rest => content :: ownTexts rest
  | .nested _ :: rest => ownTexts rest
  | _ => []

/-- The texts of a message itself, up to the first failure of formatting or the first failure within it. -/
def writtenTexts : List Piece → List String
  | .text content :: rest => content :: writtenTexts rest
  | _ => []

/-- Only a failure within a message makes a difference. -/
theorem writtenTexts_of_unnested {message : List Piece} (unnested : ∀ inner, .nested inner ∉ message) :
    writtenTexts message = ownTexts message := by
  induction message with
  | nil => rfl
  | cons piece rest ih =>
    have later := ih fun inner member => unnested inner (List.mem_cons_of_mem piece member)
    cases piece with
    | text content => rw [writtenTexts, ownTexts, later]
    | nested inner => exact absurd List.mem_cons_self (unnested inner)
    | failure => rfl

namespace Epitaph

/-- A failure within a message halts as any failure does. -/
theorem writePiece_nested (epitaph : Epitaph) (message : List Piece) :
    epitaph.writePiece (.nested message) = (epitaph.die message, .halts) := by
  rw [writePiece, die, record]
  split
  · rfl
  · rfl

theorem die_of_failed {epitaph : Epitaph} (failed : epitaph.failed = true) (message : List Piece) :
    epitaph.die message = epitaph := by
  rw [die, record, if_pos failed]

/-- Once the flag is up, a message writes its texts in front of the first piece that is none. -/
theorem writePieces_of_failed {epitaph : Epitaph} (failed : epitaph.failed = true) (message : List Piece) :
    (epitaph.writePieces message).1 =
      { epitaph with note := (writtenTexts message).foldl NoteBuffer.write epitaph.note } := by
  induction message generalizing epitaph with
  | nil =>
    rw [writePieces]
    rfl
  | cons piece rest ih =>
    cases piece with
    | text content =>
      rw [writePieces, writePiece]
      exact ih failed
    | nested inner =>
      rw [writePieces, writePiece_nested, die_of_failed failed]
      rfl
    | failure =>
      rw [writePieces, writePiece]
      rfl

/-- The first message raises the flag and writes. -/
theorem die_of_not_failed {epitaph : Epitaph} (intact : epitaph.failed = false) (message : List Piece) :
    epitaph.die message = ⟨true, (writtenTexts message).foldl NoteBuffer.write epitaph.note⟩ := by
  rw [die, record, if_neg (Bool.eq_false_iff.mp intact), writePieces_of_failed rfl]

/-- Writing halts in front of the pieces behind a failure within the message, if only texts stand before it. -/
theorem writePieces_halted_iff {epitaph : Epitaph} {message unwritten : List Piece} :
    (epitaph.writePieces message).2 = .halted unwritten ↔
      ∃ (texts : List String) (inner : List Piece), message = texts.map .text ++ .nested inner :: unwritten := by
  induction message generalizing epitaph with
  | nil =>
    rw [writePieces]
    refine iff_of_false (fun halted => (nomatch halted)) ?_
    rintro ⟨_ | ⟨first, texts⟩, _, same⟩
    · cases same
    · cases same
  | cons piece rest ih =>
    cases piece with
    | text content =>
      rw [writePieces, writePiece]
      refine ih.trans ⟨fun ⟨texts, inner, same⟩ => ⟨content :: texts, inner, by rw [same]; rfl⟩, ?_⟩
      rintro ⟨_ | ⟨first, texts⟩, inner, same⟩
      · cases same
      · exact ⟨texts, inner, (List.cons.inj same).2⟩
    | nested inner =>
      rw [writePieces, writePiece_nested]
      constructor
      · rintro ⟨⟩
        exact ⟨[], inner, rfl⟩
      · rintro ⟨_ | ⟨first, texts⟩, _, same⟩
        · cases same
          rfl
        · cases same
    | failure =>
      rw [writePieces, writePiece]
      refine iff_of_false (fun halted => (nomatch halted)) ?_
      rintro ⟨_ | ⟨first, texts⟩, _, same⟩
      · cases same
      · cases same

/-- The processor after it came to call for failures with some messages, one after the other. -/
def after (messages : List (List Piece)) : Processor := messages.foldl Processor.die (.running {})

/-- The first message halts the processor, and it is the only one. -/
theorem after_cons (first : List Piece) (later : List (List Piece)) :
    after (first :: later) = .halted ⟨true, .holding 128 (utf8 (writtenTexts first))⟩ := by
  have called : Processor.die (.running {}) first = .halted ⟨true, .holding 128 (utf8 (writtenTexts first))⟩ := by
    rw [Processor.die, die_of_not_failed rfl, NoteBuffer.foldl_write]
  rw [after, List.foldl_cons, called]
  exact List.foldl_fixed' (fun _ => rfl) later

/-- The flag is up from the first message on, which halts the processor: no later one is recorded. The note is the
beginning of the texts that this message wrote itself, with zeros behind them; these are all its own texts up to the first
failure of formatting, unless there is a failure within it, and what stands behind that is never written. Whatever is
written to a buffer, it holds the beginning of it after each piece. -/
theorem keeps_first :
    (∀ messages, (after messages).epitaph.failed = false ↔ messages = []) ∧
    (∀ first later, ∃ epitaph, after [first] = .halted epitaph ∧ after (first :: later) = .halted epitaph ∧
      epitaph.note.bytes =
        (utf8 (writtenTexts first)).take 128 ++ List.replicate (128 - (utf8 (writtenTexts first)).length) 0) ∧
    (∀ message, (∀ inner, .nested inner ∉ message) → writtenTexts message = ownTexts message) ∧
    (∀ message unwritten, (record {} message).2 = .halted unwritten ↔
      ∃ (texts : List String) (inner : List Piece), message = texts.map .text ++ .nested inner :: unwritten) ∧
    ∀ size texts,
      texts.scanl NoteBuffer.write ⟨size, []⟩ = texts.inits.map (fun sofar => ⟨size, (utf8 sofar).take size⟩) ∧
      NoteBuffer.writeAll ⟨size, []⟩ texts =
        (texts.inits.tail.map fun sofar => min size (utf8 sofar).length, ⟨size, (utf8 texts).take size⟩) := by
  refine ⟨fun messages => ?_, fun first later => ?_, fun message unnested => ?_, fun message unwritten => ?_,
    fun size texts => ?_⟩
  · cases messages with
    | nil => exact iff_of_true rfl rfl
    | cons first later =>
      rw [after_cons]
      exact iff_of_false Bool.noConfusion (List.cons_ne_nil first later)
  · exact ⟨_, after_cons first [], after_cons first later, NoteBuffer.bytes_holding 128 (utf8 (writtenTexts first))⟩
  · exact writtenTexts_of_unnested unnested
  · exact writePieces_halted_iff
  · exact ⟨NoteBuffer.scanl_write size texts, NoteBuffer.writeAll_empty size texts⟩

/-- Nothing fails within a message whose formatting stops half way, and its first text is all that is left. -/
theorem keeps_first_unnested : (∀ inner, Piece.nested inner ∉ [.text "a", .failure, .text "b"]) ∧
    writtenTexts [.text "a", .failure, .text "b"] = ["a"] := by
  have unnested (inner : List Piece) : Piece.nested inner ∉ [.text "a", .failure, .text "b"] := by simp
  exact ⟨unnested, (keeps_first.2.2.1 _ unnested).trans rfl⟩

/-- A text that stands behind a failure within the message is not written. -/
theorem nested_failure_cuts :
    ownTexts [.text "a", .nested [.text "x"], .text "b"] = ["a", "b"] ∧
      (after [[.text "a", .nested [.text "x"], .text "b"]]).epitaph.note.bytes ≠
        (utf8 ["a", "b"]).take 128 ++ List.replicate (128 - (utf8 ["a", "b"]).length) 0 ∧
      (after [[.text "a", .nested [.text "x"], .text "b"]]).epitaph.note.bytes =
        (utf8 ["a"]).take 128 ++ List.replicate (128 - (utf8 ["a"]).length) 0 := by
  decide +kernel

end Epitaph

end CoopKernel
