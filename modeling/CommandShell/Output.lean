/-
This file holds bytes that are written one piece after the other. The pieces are
kept as they are, the last one first, so that writing at the end costs no more than
the piece. What was written last is always the end of the whole.
-/

import CommandShell.Bytes

namespace CommandShell

/-- Bytes that were written one piece after the other. -/
structure Output where
  /-- The pieces, the last one first. -/
  pieces : List Bytes
  /-- The number of bytes in the pieces. -/
  size : Nat
  /-- The number of bytes that were taken away. -/
  drained : Nat
  size_eq : size = pieces.flatten.length
  deriving DecidableEq, Repr

namespace Output

/-- Output to which nothing was written. -/
def empty : Output := ⟨[], 0, 0, rfl⟩

/-- Output that is one piece. -/
def ofBytes (bytes : Bytes) : Output := ⟨[bytes], bytes.length, 0, by simp⟩

/-- What was written. -/
def bytes (output : Output) : Bytes :=
  match output.pieces with
  | [piece] => piece
  | pieces => pieces.reverse.flatten

/-- The number of bytes that were written in all. -/
def count (output : Output) : Nat := output.drained + output.size

/-- Write at the end. -/
def add (output : Output) (bytes : Bytes) : Output :=
  ⟨bytes :: output.pieces, bytes.length + output.size, output.drained, by simp [output.size_eq]⟩

/-- Take away what was written. It still counts. -/
def drain (output : Output) : Output := ⟨[], 0, output.count, rfl⟩

/-- The same bytes in one piece. -/
def joined (output : Output) : Output := .ofBytes output.bytes

/-- The bytes are those of the pieces in the order in which they were written. -/
theorem bytes_eq (output : Output) : output.bytes = output.pieces.reverse.flatten := by
  unfold bytes
  split
  · next piece single => simp [single]
  · rfl

@[simp]
theorem bytes_empty : empty.bytes = [] := rfl

@[simp]
theorem bytes_ofBytes (bytes : Bytes) : (ofBytes bytes).bytes = bytes := rfl

/-- What is written stands behind what was written before. -/
@[simp]
theorem bytes_add (output : Output) (bytes : Bytes) :
    (output.add bytes).bytes = output.bytes ++ bytes := by
  simp [bytes_eq, add]

@[simp]
theorem bytes_drain (output : Output) : output.drain.bytes = [] := rfl

@[simp]
theorem bytes_joined (output : Output) : output.joined.bytes = output.bytes := rfl

theorem size_eq_length (output : Output) : output.size = output.bytes.length := by
  simp [output.size_eq, bytes_eq, List.length_flatten, List.map_reverse]

end Output

/-! ### Overwriting -/

/-- The content after bytes were written at an offset. A gap is filled with zeros. -/
def overwrite (content : Bytes) (offset : Nat) (bytes : Bytes) : Bytes :=
  content.take offset ++ (List.replicate (offset - content.length) 0 ++
    (bytes ++ content.drop (offset + bytes.length)))

/-- At the end of the content, overwriting adds to it. -/
theorem overwrite_length (content bytes : Bytes) :
    overwrite content content.length bytes = content ++ bytes := by
  simp [overwrite]

/-- Write at an offset. -/
def Output.addAt (output : Output) (offset : Nat) (bytes : Bytes) : Output :=
  if offset = output.size then output.add bytes
  else .ofBytes (overwrite output.bytes offset bytes)

@[simp]
theorem Output.bytes_addAt (output : Output) (offset : Nat) (bytes : Bytes) :
    (output.addAt offset bytes).bytes = overwrite output.bytes offset bytes := by
  unfold addAt
  split
  · next atEnd => rw [atEnd, size_eq_length, overwrite_length, bytes_add]
  · rfl

end CommandShell
