/-
This file reads the lines of an input that is not a keyboard. A line ends at a
newline, of which a carriage return just before it is a part. It has to be text,
and a backspace in it takes away the grapheme before it, so that lines can be
corrected as they are typed. A line without a backspace is taken as it is.

A grapheme is taken away by its number of bytes, and that number is kept modulo
256. For a grapheme of 256 bytes or more the backspace therefore takes away less
than it should, and if that would cut a character in two, the line cannot be read.
-/

import CommandShell.Bytes
import CommandShell.Grapheme

namespace CommandShell

/-! ### Lines -/

/-- The newline, which ends a line. -/
def lineEnd : UInt8 := 10

/-- The carriage return, one of which may stand before the newline. -/
def carriageReturn : UInt8 := 13

/-- The bytes without one carriage return at the end. -/
def dropReturn (line : Bytes) : Bytes :=
  if line.getLast? = some carriageReturn then line.dropLast else line

/-- The lines of an input, without their ends. What follows the last newline is a line if there is
anything. -/
def inputLines (input : Bytes) : List Bytes :=
  let pieces := input.splitOn lineEnd
  pieces.dropLast.map dropReturn ++ (pieces.getLast?.toList.filter (· ≠ []))

/-! ### Backspaces -/

/-- The backspace. -/
def backspace : Char := Char.ofNat 8

/-- The number of bytes of a piece of text. -/
def byteCount (piece : List Char) : Nat :=
  piece.foldl (fun count character => count + character.utf8Size) 0

/-- The size of a grapheme is kept modulo this number. -/
def sizeModulus : Nat := 256

/-- A line being typed: its characters from the last one to the first, and the sizes of its
graphemes in the same order. -/
structure TypedLine where
  backwards : List Char
  sizes : List Nat
  deriving DecidableEq, Repr

/-- Take away this many bytes from the front, unless that would cut a character in two. -/
def dropBytes : Nat → List Char → Option (List Char)
  | 0, characters => some characters
  | _ + 1, [] => none
  | count + 1, character :: rest =>
    if character.utf8Size ≤ count + 1 then dropBytes (count + 1 - character.utf8Size) rest
    else none

namespace TypedLine

/-- A line on which nothing is typed. -/
def empty : TypedLine := ⟨[], []⟩

/-- Take away the grapheme typed last, if there is one. -/
def erase (line : TypedLine) : Option TypedLine :=
  match line.sizes with
  | [] => some line
  | size :: sizes => (dropBytes size line.backwards).map (⟨·, sizes⟩)

/-- Type one more grapheme. -/
def type (line : TypedLine) (grapheme : List Char) : Option TypedLine :=
  if grapheme = [backspace] then line.erase
  else
    some ⟨grapheme.reverse ++ line.backwards, byteCount grapheme % sizeModulus :: line.sizes⟩

end TypedLine

/-- The text that is left when the backspaces in it have taken away what they do. -/
def applyBackspaces (text : List Char) : Option (List Char) :=
  ((Grapheme.graphemes text).foldlM TypedLine.type .empty).map (·.backwards.reverse)

theorem foldlM_type {graphemes : List (List Char)} (clean : [backspace] ∉ graphemes)
    (line : TypedLine) :
    ∃ typed, graphemes.foldlM TypedLine.type line = some typed ∧
      typed.backwards.reverse = line.backwards.reverse ++ graphemes.flatten := by
  induction graphemes generalizing line with
  | nil => exact ⟨line, rfl, by simp⟩
  | cons grapheme rest inductionHypothesis =>
    have different : grapheme ≠ [backspace] := fun same => clean (by simp [same])
    obtain ⟨typed, reached, text⟩ := inductionHypothesis
      (fun member => clean (List.mem_cons_of_mem _ member))
      ⟨grapheme.reverse ++ line.backwards, byteCount grapheme % sizeModulus :: line.sizes⟩
    refine ⟨typed, ?_, ?_⟩
    · rw [List.foldlM_cons, TypedLine.type, if_neg different]
      exact reached
    · rw [text]
      simp

/-- A text without a backspace is taken as it is. -/
theorem applyBackspaces_of_not_mem {text : List Char} (clean : backspace ∉ text) :
    applyBackspaces text = some text := by
  have apart : [backspace] ∉ Grapheme.graphemes text := by
    intro member
    apply clean
    rw [← Grapheme.flatten_graphemes text]
    exact List.mem_flatten.mpr ⟨[backspace], member, by simp⟩
  obtain ⟨typed, reached, same⟩ := foldlM_type apart .empty
  rw [applyBackspaces, reached, Option.map_some, same, Grapheme.flatten_graphemes]
  rfl

/-! ### Reading -/

/-- What a line of an input is read as. -/
inductive LineRead
  | text (line : String)
  /-- The line is not text. -/
  | notText
  /-- A backspace would cut a character in two. -/
  | cut
  deriving DecidableEq, Repr

/-- Read a line. -/
def readLine (line : Bytes) : LineRead :=
  match decode? line with
  | none => .notText
  | some text =>
    match applyBackspaces text.toList with
    | none => .cut
    | some characters => .text (String.ofList characters)

/-- The bytes of a text without a backspace are read as that text. -/
theorem readLine_utf8 {text : String} (clean : backspace ∉ text.toList) :
    readLine (utf8 text) = .text text := by
  rw [readLine, decode?_utf8]
  simp [applyBackspaces_of_not_mem clean]

/-- The bytes of a text in which a backspace would cut a character in two. -/
theorem readLine_cut {text : String} (broken : applyBackspaces text.toList = none) :
    readLine (utf8 text) = .cut := by
  rw [readLine, decode?_utf8]
  simp [broken]

end CommandShell
