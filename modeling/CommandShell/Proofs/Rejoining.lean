/-
This file says which words are read back when they are joined by spaces: those in
which no character means anything to the reading of a line. That such words come
back is clear. The content is that no others do, whatever their quotes, backslashes
and blanks make of each other and of the spaces between the words.

What settles it is a count of the marks, the two quotes and the backslash. Every
piece of a line that is no plain character uses up at least one mark, for itself, and
no piece stands for a mark that it does not hold. So the words of a line have fewer
marks than the line, unless nothing in it is quoted. Joining words adds no marks, so
words that come back are made of plain characters.
-/

import CommandShell.Proofs.Writing

namespace CommandShell

/-! ### Marks -/

/-- A character that a line uses to quote others. -/
def isMark (character : Char) : Bool :=
  character == '\'' || character == '"' || character == '\\'

/-- The number of marks in a text. -/
def markCount (text : List Char) : Nat :=
  text.countP isMark

@[simp]
theorem markCount_nil : markCount [] = 0 := rfl

@[simp]
theorem markCount_append (first second : List Char) :
    markCount (first ++ second) = markCount first + markCount second :=
  List.countP_append

@[simp]
theorem markCount_cons (first : Char) (rest : List Char) :
    markCount (first :: rest) = markCount rest + if isMark first then 1 else 0 :=
  List.countP_cons

/-- Spaces between words add no marks. -/
theorem markCount_intercalate (words : List String) :
    markCount (" ".intercalate words).toList = markCount (words.flatMap String.toList) := by
  have space : markCount " ".toList = 0 := by decide
  induction words with
  | nil => rfl
  | cons first others inductionHypothesis =>
    cases others with
    | nil => simp
    | cons second others =>
      rw [String.intercalate_cons_cons, String.toList_append, String.toList_append,
        markCount_append, markCount_append, space, inductionHypothesis, Nat.add_zero,
        ← markCount_append]
      rfl

/-! ### The marks of pieces -/

namespace QuotedPart

/-- A part of a quoted text holds the mark that it stands for. -/
theorem markCount_text_le (part : QuotedPart) : markCount [part.text] ≤ markCount part.source := by
  cases part with
  | plain character => exact Nat.le_refl _
  | escape character =>
    rw [source, markCount_cons '\\']
    exact Nat.le_add_right _ _
  | backslash => exact Nat.le_refl 1

theorem markCount_texts_le (parts : List QuotedPart) :
    markCount (parts.map text) ≤ markCount (parts.flatMap source) := by
  induction parts with
  | nil => exact Nat.le_refl 0
  | cons part rest inductionHypothesis =>
    rw [List.map_cons, List.flatMap_cons, ← List.singleton_append, markCount_append,
      markCount_append]
    exact Nat.add_le_add part.markCount_text_le inductionHypothesis

end QuotedPart

namespace Piece

/-- Whether nothing is quoted in the piece. -/
def isPlain : Piece → Bool
  | .blank _ | .bare _ => true
  | _ => false

/-- A piece holds the marks of its text, and one more if something is quoted in it. -/
theorem markCount_text (piece : Piece) :
    markCount piece.text + (if piece.isPlain then 0 else 1) ≤ markCount piece.source := by
  cases piece with
  | blank character => exact Nat.zero_le _
  | bare character => exact Nat.le_refl _
  | escaped character => simp [text, isPlain, source, isMark]
  | single content => simp [text, isPlain, source, isMark]
  | double parts =>
    have inside := QuotedPart.markCount_texts_le parts
    rw [source, List.cons_append, markCount_cons, markCount_append]
    exact Nat.add_le_add_right (Nat.le_add_right_of_le inside) 1
  | openSingle content => simp [text, isPlain, source, isMark]
  | openDouble parts =>
    rw [source, markCount_cons]
    exact Nat.add_le_add_right (QuotedPart.markCount_texts_le parts) 1
  | loneBackslash => exact Nat.le_refl 1

theorem markCount_texts (pieces : List Piece) :
    markCount (pieces.flatMap text) + pieces.countP (!·.isPlain) ≤
      markCount (pieces.flatMap source) := by
  induction pieces with
  | nil => exact Nat.le_refl 0
  | cons piece rest inductionHypothesis =>
    have own := piece.markCount_text
    have quoting : (if !piece.isPlain then 1 else 0) = if piece.isPlain then 0 else 1 := by
      cases piece.isPlain <;> rfl
    rw [List.flatMap_cons, List.flatMap_cons, markCount_append, markCount_append,
      List.countP_cons, quoting]
    omega

end Piece

/-! ### The marks of words -/

/-- The words of a reading, put together, are all that was read: only empty words are dropped. -/
theorem Reading.flatten_words (reading : Reading) :
    reading.words.flatten = reading.current ++ reading.later.flatten := by
  unfold words
  split
  · next nothing => rw [nothing, List.nil_append]
  · rw [List.flatten_cons]

theorem flatten_foldr_before (pieces : List Piece) :
    (pieces.foldr Piece.before .done).words.flatten = pieces.flatMap Piece.text := by
  induction pieces with
  | nil => rfl
  | cons piece rest inductionHypothesis =>
    rw [Reading.flatten_words] at inductionHypothesis
    rw [List.foldr_cons, Reading.flatten_words, List.flatMap_cons, ← inductionHypothesis]
    cases piece with
    | blank character => exact Reading.flatten_words _
    | _ => exact List.append_assoc ..

/-- The words of a line, put together, are what its pieces stand for. -/
theorem Cuts.flatMap_splitWords {line : String} {pieces : List Piece}
    (cut : Cuts line.toList pieces) :
    (splitWords line).flatMap String.toList = pieces.flatMap Piece.text := by
  rw [splitWords, cut.scan_eq, List.flatMap_map, ← flatten_foldr_before, List.flatMap_def]
  simp [String.toList_ofList]

/-- If the words of a line have all of its marks, nothing in it is quoted. So there are neither
marks nor blanks in the words. -/
theorem plain_of_marks_kept {line : String}
    (kept : markCount line.toList ≤ markCount ((splitWords line).flatMap String.toList)) :
    ∀ word ∈ splitWords line, ∀ character ∈ word.toList,
      character ∉ [' ', '\t', '\'', '"', '\\'] := by
  obtain ⟨pieces, cut⟩ := exists_cuts line.toList
  have counted := Piece.markCount_texts pieces
  rw [cut.source_eq, ← cut.flatMap_splitWords] at counted
  have noQuoting : pieces.countP (!·.isPlain) = 0 := by omega
  intro word isWord character within
  have isText : character ∈ pieces.flatMap Piece.text := by
    rw [← cut.flatMap_splitWords]
    exact List.mem_flatMap.mpr ⟨word, isWord, within⟩
  obtain ⟨piece, isPiece, ofPiece⟩ := List.mem_flatMap.mp isText
  have plain : piece.isPlain = true := by simpa using List.countP_eq_zero.mp noQuoting piece isPiece
  cases piece with
  | blank => cases ofPiece
  | bare other =>
    obtain rfl := List.mem_singleton.mp ofPiece
    exact cut.wellFormed _ isPiece
  | _ => cases plain

/-! ### Joining words and reading them again -/

/-- Words that are joined by spaces are read back just if none of them is empty or has a blank, a
quote or a backslash in it. The words of a line are never empty, so they are read back just if none
has such a character in it. -/
theorem splitWords_intercalate_eq_self_iff :
    (∀ words : List String, splitWords (" ".intercalate words) = words ↔
      ∀ word ∈ words, word ≠ "" ∧
        ∀ character ∈ word.toList, character ∉ [' ', '\t', '\'', '"', '\\']) ∧
    ∀ line, splitWords (" ".intercalate (splitWords line)) = splitWords line ↔
      ∀ word ∈ splitWords line, ∀ character ∈ word.toList,
        character ∉ [' ', '\t', '\'', '"', '\\'] := by
  have exactly (words : List String) : splitWords (" ".intercalate words) = words ↔
      ∀ word ∈ words, word ≠ "" ∧
        ∀ character ∈ word.toList, character ∉ [' ', '\t', '\'', '"', '\\'] := by
    constructor
    · intro same word isWord
      have kept : markCount (" ".intercalate words).toList ≤
          markCount ((splitWords (" ".intercalate words)).flatMap String.toList) := by
        rw [same, markCount_intercalate]
      have plain := plain_of_marks_kept kept
      have given := splitWords_ne_empty (" ".intercalate words)
      rw [same] at plain given
      exact ⟨given word isWord, plain word isWord⟩
    · intro plain
      have wellFormed : ∀ each ∈ words.map WrittenWord.bare, each.WellFormed := by
        intro each isWritten
        obtain ⟨word, isWord, rfl⟩ := List.mem_map.mp isWritten
        exact plain word isWord
      have read := splitWords_intercalate wellFormed
      rw [List.map_map, List.map_map] at read
      have source : WrittenWord.source ∘ WrittenWord.bare = id := rfl
      have word : WrittenWord.word ∘ WrittenWord.bare = id := rfl
      rwa [source, word, List.map_id] at read
  refine ⟨exactly, fun line => (exactly (splitWords line)).trans ?_⟩
  exact forall₂_congr fun word isWord => and_iff_right (splitWords_ne_empty line word isWord)

/-- Quotes that a line spends on a blank are not there when its words are joined. -/
example : splitWords "a 'b  c'" = ["a", "b  c"] ∧
    splitWords (" ".intercalate (splitWords "a 'b  c'")) = ["a", "b", "c"] := by
  decide +kernel

end CommandShell
