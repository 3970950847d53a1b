/-
This file cuts texts into fields: values of parameters, and lines that are read.
The separators among the letters are soft or hard. Soft ones, which are blanks, count
once however many of them there are, and with them one hard one; each other hard
one ends a field, which may be empty. A letter that is quoted never separates.
-/

import CommandShell.Script.Pattern

namespace CommandShell

namespace Script

/-- Whether a separator is one of those that count once however often they stand. -/
def isSoft (character : Char) : Bool :=
  character == ' ' || character == '\t' || character == '\n'

/-! ### Words -/

/-- A piece of a word whose parts have their values. -/
inductive Bit
  /-- A letter, at which the word can be split if `splits` is set. -/
  | letter (letter : Letter) (splits : Bool)
  /-- One parameter ends here and another one starts. -/
  | join (quoted : Bool)
  /-- A value ends here, which can be several parameters in quotes. -/
  | edge (listed : Bool)
  /-- There is a word here, even if it is empty. -/
  | mark
  deriving DecidableEq, Repr

/-- The pieces of a text. -/
def letterBits (quoted : Bool) (text : Text) : List Bit :=
  text.map fun character => .letter ⟨character, quoted⟩ (!quoted)

/-- The letter that a piece is. -/
def Bit.letter? : Bit → Option Letter
  | .letter one _ => some one
  | _ => none

/-- The text of pieces. -/
def bitText (bits : List Bit) : Text :=
  bits.filterMap fun bit => bit.letter?.map (·.character)

/-- How far pieces are split into words. -/
structure Splitting where
  /-- The words, the last one first. -/
  words : List (List Letter) := []
  /-- The word that is being put together, its last letter first. -/
  current : Option (List Letter) := none
  /-- Whether a soft separator stood right before. -/
  softly : Bool := false
  /-- Whether the value before was several parameters in quotes. -/
  listed : Bool := false

namespace Splitting

/-- End the word, even if there is none. -/
def cut (splitting : Splitting) : Splitting :=
  { splitting with
    words := splitting.current.getD [] :: splitting.words, current := none }

/-- Go on with a separator. A hard one behind soft ones belongs to them. Behind parameters in
quotes every separator is hard. -/
def separate (soft : Bool) (splitting : Splitting) : Splitting :=
  if splitting.softly then { splitting with softly := soft }
  else if soft && !splitting.listed then
    if splitting.current.isNone then splitting else { splitting.cut with softly := true }
  else splitting.cut

/-- Go on with a piece. -/
def next (separators : Text) (splitting : Splitting) (bit : Bit) : Splitting :=
  match bit with
  | .letter letter splits =>
    if splits && separators.contains letter.character then
      splitting.separate (isSoft letter.character)
    else
      { splitting with current := some (letter :: splitting.current.getD []), softly := false }
  | .join quoted => if quoted then splitting.cut else splitting.separate true
  | .edge listed => { splitting with softly := false, listed := listed }
  | .mark => { splitting with current := some (splitting.current.getD []), softly := false }

/-- The words. -/
def done (splitting : Splitting) : List (List Letter) :=
  let splitting :=
    if splitting.current.isSome || splitting.listed then splitting.cut else splitting
  splitting.words.reverse.map List.reverse

end Splitting

/-- The words that pieces are split into. -/
def splitBits (separators : Text) (bits : List Bit) : List (List Letter) :=
  (bits.foldl (Splitting.next separators) {}).done

/-! ### Lines -/

/-- A line of an input, the number of bytes it took, and whether it had an end. A letter behind a
backslash is quoted, unless the input is taken as it is; a line end behind one is left out. -/
def takeLine (plain : Bool) : (behind : Bool) → Bytes → List Letter × Nat × Bool
  | _, [] => ([], 0, false)
  | behind, byte :: rest =>
    let character := Char.ofNat byte.toNat
    let more (letters : List Letter) (behind : Bool) : List Letter × Nat × Bool :=
      let (line, taken, ended) := takeLine plain behind rest
      (letters ++ line, taken + 1, ended)
    if byte = 0 then more [] behind
    else if behind then more (if character = '\n' then [] else [⟨character, true⟩]) false
    else if character = '\\' && !plain then more [] true
    else if character = '\n' then ([], 1, true)
    else more [⟨character, false⟩] false

/-- How far a line is cut into fields. -/
structure Cutting where
  /-- The fields, the last one first. -/
  fields : List (List Letter) := []
  /-- The field that is being put together, its last letter first. -/
  current : List Letter := []
  /-- The number of letters after which the separators at the end of the last field start. -/
  ending : Option Nat := none
  /-- How many more separators count. -/
  left : Nat
  /-- Whether soft separators end here. -/
  softly : Bool := false

namespace Cutting

/-- Put a letter to the field. -/
def add (cutting : Cutting) (letter : Letter) : Cutting :=
  { cutting with current := letter :: cutting.current, softly := false }

/-- Go on with a letter. After the last separator that counts only soft separators at the end are
left out, and with them one hard one. -/
def next (separators : Text) (cutting : Cutting) (letter : Letter) : Cutting :=
  let separates := !letter.quoted && separators.contains letter.character
  let soft := separates && isSoft letter.character
  let { current, ending, left, softly, .. } := cutting
  if letter.quoted then cutting.add letter
  else if left = 0 then
    let longer := { cutting with current := letter :: current }
    if soft then { longer with ending := ending.orElse fun _ => some current.length }
    else { longer with ending := if separates && softly then ending else none, softly := false }
  else if !separates then cutting.add letter
  else if softly then { cutting with softly := soft }
  else if soft && current.isEmpty then cutting
  else if left = 1 then
    { cutting with
      current := letter :: current, ending := some current.length, left := 0, softly := soft }
  else
    { cutting with
      fields := current :: cutting.fields, current := [], left := left - 1, softly := soft }

/-- The fields. The last one is left out if it is empty. -/
def done (cutting : Cutting) : List Text :=
  let last := cutting.current.reverse.take (cutting.ending.getD cutting.current.length)
  let fields := cutting.fields.reverse.map List.reverse
  (if last.isEmpty then fields else fields ++ [last]).map Letter.text

end Cutting

/-- The fields of a line, of which there are so many at most. -/
def cutLine (separators : Text) (count : Nat) (letters : List Letter) : List Text :=
  (letters.foldl (Cutting.next separators) { left := count }).done

end Script

end CommandShell
