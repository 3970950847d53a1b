/-
This file cuts text into graphemes, the units that a user takes for one character:
a letter with its marks, a syllable block, a flag of two letters, a pictograph made
of several. Every character has a class, and whether it stays with what stands
before it depends on the classes of the grapheme so far. Nothing is lost: the
graphemes of a text, one after the other, are the text.
-/

import CommandShell.Grapheme.Table

namespace CommandShell

/-- The class of a character, as far as the cutting of text goes. -/
inductive BreakClass
  | carriageReturn
  | lineFeed
  /-- Stands alone. -/
  | control
  /-- A mark. -/
  | extend
  /-- A mark that joins two consonants. -/
  | linker
  /-- The mark that keeps two letters apart. -/
  | nonJoiner
  /-- The mark that joins two pictographs. -/
  | joiner
  /-- A mark with a width of its own. -/
  | spacing
  /-- Stays with what comes after it. -/
  | prepend
  /-- One half of a flag. -/
  | flag
  | leading
  | vowel
  | trailing
  /-- A syllable block without a trailing consonant. -/
  | openSyllable
  /-- A syllable block with a trailing consonant. -/
  | closedSyllable
  | picture
  | consonant
  | other
  deriving DecidableEq, Repr

namespace Grapheme

/-- Whether a code lies in one of the ranges. -/
def isIn (code : Nat) (ranges : List (Nat × Nat)) : Bool :=
  ranges.any fun range => range.1 ≤ code && code ≤ range.2

/-- The class of a character below the first range of marks. -/
def classOfLow (code : Nat) : BreakClass :=
  if code = 10 then .lineFeed
  else if code = 13 then .carriageReturn
  else if code < 0x20 ∨ (0x7F ≤ code ∧ code ≤ 0x9F) ∨ code = 0xAD then .control
  else if code = 0xA9 ∨ code = 0xAE then .picture
  else .other

/-- The class of a character from the first range of marks on. -/
def classOfHigh (code : Nat) : BreakClass :=
  if code ∈ linkers then .linker
  else if code = 0x200C then .nonJoiner
  else if code = 0x200D then .joiner
  else if isIn code [flagRange] then .flag
  else if isIn code [syllableRange] then
    if (code - syllableRange.1) % 28 = 0 then .openSyllable else .closedSyllable
  else if isIn code leadingRanges then .leading
  else if isIn code vowelRanges then .vowel
  else if isIn code trailingRanges then .trailing
  else if isIn code consonantRanges then .consonant
  else if isIn code prependRanges then .prepend
  else if isIn code controlRanges then .control
  else if isIn code pictureRanges then .picture
  else if isIn code spacingRanges then .spacing
  else if isIn code extendRanges then .extend
  else .other

/-- The class of a character. -/
def classOf (character : Char) : BreakClass :=
  if character.toNat < 0x300 then classOfLow character.toNat else classOfHigh character.toNat

end Grapheme

namespace BreakClass

/-- Whether the character never stays with another one, but for a line feed after a carriage
return. -/
def standsAlone : BreakClass → Bool
  | .carriageReturn | .lineFeed | .control => true
  | _ => false

/-- Whether the character is a mark without a width of its own, other than the joiner. -/
def isMark : BreakClass → Bool
  | .extend | .linker | .nonJoiner => true
  | _ => false

/-- Whether the character may stand between a consonant and the linking mark after it. -/
def staysInConjunct : BreakClass → Bool
  | .extend | .linker | .joiner => true
  | _ => false

/-- Whether a grapheme that ends in these classes, the last one first, is a consonant that waits
for another one. -/
def awaitsConsonant (before : List BreakClass) : Bool :=
  (before.takeWhile staysInConjunct).contains .linker &&
    (before.dropWhile staysInConjunct).head? == some .consonant

/-- Whether a grapheme that ends in these classes, the last one first, is a pictograph that waits
for another one. -/
def awaitsPicture : List BreakClass → Bool
  | .joiner :: earlier => (earlier.dropWhile isMark).head? == some .picture
  | _ => false

/-- Whether a grapheme that ends in these classes, the last one first, is half of a flag. -/
def awaitsFlag (before : List BreakClass) : Bool :=
  (before.takeWhile (· == .flag)).length % 2 == 1

/-- Whether a character stays with the grapheme before it, which has these classes, the last one
first. -/
def joins (before : List BreakClass) (next : BreakClass) : Bool :=
  match before with
  | [] => false
  | last :: _ =>
    if last == .carriageReturn && next == .lineFeed then true
    else if last.standsAlone || next.standsAlone then false
    else if next.isMark || next == .joiner || next == .spacing || last == .prepend then true
    else
      match next with
      | .leading | .openSyllable | .closedSyllable => last == .leading
      | .vowel => last == .leading || last == .vowel || last == .openSyllable
      | .trailing =>
        last == .vowel || last == .openSyllable || last == .trailing || last == .closedSyllable
      | .consonant => awaitsConsonant before
      | .picture => awaitsPicture before
      | .flag => awaitsFlag before
      | _ => false

end BreakClass

/-- A grapheme that may go on: its characters and their classes, both from the last one to the
first. -/
structure OpenGrapheme where
  characters : List Char
  classes : List BreakClass

namespace Grapheme

/-- A grapheme of one character. -/
def single (character : Char) : OpenGrapheme := ⟨[character], [classOf character]⟩

/-- Take one more character: it stays with the first grapheme or starts a new one. -/
def addCharacter (graphemes : List OpenGrapheme) (character : Char) : List OpenGrapheme :=
  match graphemes with
  | [] => [single character]
  | last :: earlier =>
    let next := classOf character
    if BreakClass.joins last.classes next then
      ⟨character :: last.characters, next :: last.classes⟩ :: earlier
    else single character :: last :: earlier

/-- The graphemes of a text. -/
def graphemes (text : List Char) : List (List Char) :=
  (text.foldl addCharacter []).reverse.map fun grapheme => grapheme.characters.reverse

/-- The text of graphemes that are listed from the last one to the first, read backwards. -/
def backwards (graphemes : List OpenGrapheme) : List Char :=
  graphemes.flatMap (·.characters)

theorem backwards_addCharacter (graphemes : List OpenGrapheme) (character : Char) :
    backwards (addCharacter graphemes character) = character :: backwards graphemes := by
  cases graphemes with
  | nil => rfl
  | cons last earlier =>
    unfold addCharacter
    simp only
    split <;> rfl

theorem backwards_foldl (text : List Char) (graphemes : List OpenGrapheme) :
    backwards (text.foldl addCharacter graphemes) = text.reverse ++ backwards graphemes := by
  induction text generalizing graphemes with
  | nil => rfl
  | cons character rest inductionHypothesis =>
    rw [List.foldl_cons, inductionHypothesis, backwards_addCharacter]
    simp

theorem flatten_reverse (graphemes : List OpenGrapheme) :
    (graphemes.reverse.map fun grapheme => grapheme.characters.reverse).flatten =
      (backwards graphemes).reverse := by
  induction graphemes with
  | nil => rfl
  | cons grapheme rest inductionHypothesis =>
    rw [List.reverse_cons, List.map_append, List.flatten_append, inductionHypothesis]
    simp [backwards]

/-- The graphemes of a text, one after the other, are the text. -/
theorem flatten_graphemes (text : List Char) : (graphemes text).flatten = text := by
  rw [graphemes, flatten_reverse, backwards_foldl]
  simp [backwards]

end Grapheme

end CommandShell
