/-
This file says what it means to read a line, apart from how that is done. A line
is a sequence of pieces: blanks, characters that stand for themselves, characters
behind a backslash, and quoted parts. Only the last piece may be cut short by the
end of the line. The words of a line are what the pieces between its blanks stand
for, less those that stand for nothing.

The content here is that every line is such a sequence in exactly one way, and
that the words found by scanning it are those of the sequence. The first piece
of a line can be told from the characters alone, which gives both that there is a
sequence and that there is no other one. A scan over the characters of one piece
adds the text of the piece to what it finds behind it, and that, piece by piece,
is the whole of the reading.
-/

import CommandShell.Word
import Mathlib.Data.List.TakeWhile

namespace CommandShell

/-! ### Pieces -/

/-- A part of a text in double quotes. It stands for one character. -/
inductive QuotedPart
  /-- A character as it is. -/
  | plain (character : Char)
  /-- A character behind a backslash that is not part of the text. -/
  | escape (character : Char)
  /-- A backslash that is part of the text. -/
  | backslash
  deriving DecidableEq, Repr

namespace QuotedPart

/-- The characters of the line. -/
def source : QuotedPart → List Char
  | .plain character => [character]
  | .escape character => ['\\', character]
  | .backslash => ['\\']

/-- The character that the part stands for. -/
def text : QuotedPart → Char
  | .plain character | .escape character => character
  | .backslash => '\\'

/-- Whether parts are read as they are when `next` is the character behind them. A backslash stands
for itself only if the character behind it is not one of four. -/
def AreRead (next : Option Char) : List QuotedPart → Prop
  | [] => True
  | .plain character :: rest => character ≠ '"' ∧ character ≠ '\\' ∧ AreRead next rest
  | .escape character :: rest => character ∈ ['\\', '$', '"', '\n'] ∧ AreRead next rest
  | .backslash :: rest =>
    (∀ follower ∈ (rest.flatMap source).head?.or next, follower ∉ ['\\', '$', '"', '\n']) ∧
      AreRead next rest

end QuotedPart

/-- A piece of a line. -/
inductive Piece
  /-- A blank outside quotes. -/
  | blank (character : Char)
  /-- A character that stands for itself. -/
  | bare (character : Char)
  /-- A character behind a backslash. -/
  | escaped (character : Char)
  /-- A text in single quotes. -/
  | single (content : List Char)
  /-- A text in double quotes. -/
  | double (parts : List QuotedPart)
  /-- A text behind a single quote that is never closed. -/
  | openSingle (content : List Char)
  /-- A text behind a double quote that is never closed. -/
  | openDouble (parts : List QuotedPart)
  /-- A backslash with nothing behind it. -/
  | loneBackslash
  deriving DecidableEq, Repr

namespace Piece

/-- The characters of the line. -/
def source : Piece → List Char
  | .blank character | .bare character => [character]
  | .escaped character => ['\\', character]
  | .single content => '\'' :: content ++ ['\'']
  | .double parts => '"' :: parts.flatMap QuotedPart.source ++ ['"']
  | .openSingle content => '\'' :: content
  | .openDouble parts => '"' :: parts.flatMap QuotedPart.source
  | .loneBackslash => ['\\']

/-- What the piece stands for. -/
def text : Piece → List Char
  | .blank _ | .loneBackslash => []
  | .bare character | .escaped character => [character]
  | .single content | .openSingle content => content
  | .double parts | .openDouble parts => parts.map QuotedPart.text

/-- Whether the characters of the piece are read as this piece. -/
def WellFormed : Piece → Prop
  | .blank character => character ∈ [' ', '\t']
  | .bare character => character ∉ [' ', '\t', '\'', '"', '\\']
  | .escaped _ | .loneBackslash => True
  | .single content | .openSingle content => '\'' ∉ content
  | .double parts => QuotedPart.AreRead (some '"') parts
  | .openDouble parts => QuotedPart.AreRead none parts

/-- Whether the piece separates words. -/
def separates : Piece → Bool
  | .blank _ => true
  | _ => false

/-- Whether the piece is not cut short by the end of the line. -/
def isWhole : Piece → Bool
  | .openSingle _ | .openDouble _ | .loneBackslash => false
  | _ => true

end Piece

/-- The pieces are a way to cut the line. -/
structure Cuts (line : List Char) (pieces : List Piece) : Prop where
  source_eq : pieces.flatMap Piece.source = line
  wellFormed : ∀ piece ∈ pieces, piece.WellFormed
  /-- Only the last piece may be cut short. -/
  whole : ∀ piece ∈ pieces.dropLast, piece.isWhole

/-- The words that pieces stand for: the texts of the runs between blanks that are not empty. -/
def wordsOf (pieces : List Piece) : List (List Char) :=
  ((pieces.splitOnP Piece.separates).map fun run => run.flatMap Piece.text).filter (· ≠ [])

theorem Piece.source_ne_nil (piece : Piece) : piece.source ≠ [] := by
  cases piece <;> simp [source]

/-- There is nothing to cut in an empty line. -/
theorem Cuts.eq_nil {pieces : List Piece} (cut : Cuts [] pieces) : pieces = [] := by
  cases pieces with
  | nil => rfl
  | cons piece others =>
    have empty := List.flatMap_eq_nil_iff.mp cut.source_eq piece List.mem_cons_self
    exact absurd empty piece.source_ne_nil

/-- A line is cut by its first piece and the pieces of what is behind it. There is nothing behind a
piece that is cut short. -/
theorem cuts_cons_iff {line : List Char} {piece : Piece} {pieces : List Piece} :
    Cuts line (piece :: pieces) ↔ piece.WellFormed ∧ ∃ later, piece.source ++ later = line ∧
      (piece.isWhole ∨ later = []) ∧ Cuts later pieces := by
  constructor
  · intro cut
    refine ⟨cut.wellFormed piece List.mem_cons_self, pieces.flatMap Piece.source,
      by simpa using cut.source_eq, ?_, rfl,
      fun other member => cut.wellFormed other (List.mem_cons_of_mem _ member), ?_⟩
    · cases pieces with
      | nil => exact Or.inr rfl
      | cons next others => exact Or.inl (cut.whole piece (by simp))
    · intro other member
      cases pieces with
      | nil => simp at member
      | cons next others => exact cut.whole other (List.mem_cons_of_mem _ member)
  · rintro ⟨wellFormed, later, rfl, ends, cut⟩
    refine ⟨by rw [List.flatMap_cons, cut.source_eq], ?_, ?_⟩
    · rintro other (_ | ⟨_, member⟩)
      · exact wellFormed
      · exact cut.wellFormed other member
    · intro other member
      cases pieces with
      | nil => simp at member
      | cons next others =>
        rcases List.mem_cons.mp member with rfl | member
        · refine ends.resolve_right ?_
          rintro rfl
          exact absurd cut.eq_nil (by simp)
        · exact cut.whole other member

/-! ### The first piece -/

/-- The parts at the start of a text behind a double quote, and what is left of it from the next
double quote on. -/
def QuotedPart.first : List Char → List QuotedPart × List Char
  | [] => ([], [])
  | character :: rest =>
    if character = '"' then ([], character :: rest)
    else if character = '\\' then
      match rest with
      | [] => ([.backslash], [])
      | follower :: rest =>
        if follower ∈ ['\\', '$', '"', '\n'] then (first rest).map (.escape follower :: ·) id
        else (first (follower :: rest)).map (.backslash :: ·) id
    else (first rest).map (.plain character :: ·) id

/-- The first piece of a line that starts with this character, and what is behind it. -/
def Piece.first (character : Char) (rest : List Char) : Piece × List Char :=
  if character ∈ [' ', '\t'] then (.blank character, rest)
  else if character = '\'' then
    match rest.dropWhile (· ≠ '\'') with
    | [] => (.openSingle rest, [])
    | _ :: later => (.single (rest.takeWhile (· ≠ '\'')), later)
  else if character = '"' then
    match QuotedPart.first rest with
    | (parts, []) => (.openDouble parts, [])
    | (parts, _ :: later) => (.double parts, later)
  else if character = '\\' then
    match rest with
    | [] => (.loneBackslash, [])
    | follower :: later => (.escaped follower, later)
  else (.bare character, rest)

namespace QuotedPart

/-- The parts at the start of a text are read as they are, and they end where it does or at a double
quote. -/
theorem first_spec (text : List Char) :
    (first text).1.flatMap source ++ (first text).2 = text ∧
      AreRead (first text).2.head? (first text).1 ∧
      ((first text).2 = [] ∨ ∃ later, (first text).2 = '"' :: later) := by
  fun_induction first text with
  | case1 => exact ⟨rfl, trivial, Or.inl rfl⟩
  | case2 rest => exact ⟨rfl, trivial, Or.inr ⟨rest, rfl⟩⟩
  | case3 => exact ⟨rfl, by simp [AreRead], Or.inl rfl⟩
  | case4 follower rest escapes _ inductionHypothesis =>
    obtain ⟨same, read, ends⟩ := inductionHypothesis
    exact ⟨by simpa [source] using same, ⟨escapes, read⟩, ends⟩
  | case5 follower rest stays _ inductionHypothesis =>
    obtain ⟨same, read, ends⟩ := inductionHypothesis
    refine ⟨by simpa [source] using same, ⟨?_, read⟩, ends⟩
    rw [Prod.map_snd, id, ← List.head?_append, same]
    simpa using stays
  | case6 character rest notQuote notBackslash inductionHypothesis =>
    obtain ⟨same, read, ends⟩ := inductionHypothesis
    exact ⟨by simpa [source] using same, ⟨notQuote, notBackslash, read⟩, ends⟩

theorem first_plain {character : Char} (notQuote : character ≠ '"')
    (notBackslash : character ≠ '\\') (rest : List Char) :
    first (character :: rest) = (first rest).map (.plain character :: ·) id := by
  rw [first.eq_def]
  simp [notQuote, notBackslash]

theorem first_escape {character : Char} (escapes : character ∈ ['\\', '$', '"', '\n'])
    (rest : List Char) :
    first ('\\' :: character :: rest) = (first rest).map (.escape character :: ·) id := by
  rw [first.eq_def]
  simp only [if_false, if_true, if_pos escapes, Char.reduceEq]

theorem first_backslash {text : List Char}
    (stays : ∀ follower ∈ text.head?, follower ∉ ['\\', '$', '"', '\n']) :
    first ('\\' :: text) = (first text).map (.backslash :: ·) id := by
  cases text with
  | nil => simp [first]
  | cons follower rest =>
    rw [first.eq_def]
    simp only [if_false, if_true, if_neg (stays follower rfl), Char.reduceEq]

/-- Parts that are read as they are, up to the end of a text or a double quote, are the parts at the
start of it. -/
theorem first_source {parts : List QuotedPart} {after : List Char}
    (read : AreRead after.head? parts) (ends : after = [] ∨ ∃ later, after = '"' :: later) :
    first (parts.flatMap source ++ after) = (parts, after) := by
  induction parts with
  | nil =>
    rcases ends with rfl | ⟨later, rfl⟩
    · rfl
    · rw [List.flatMap_nil, List.nil_append, first.eq_def]
      rfl
  | cons part rest inductionHypothesis =>
    rw [List.flatMap_cons, List.append_assoc]
    cases part with
    | plain character =>
      obtain ⟨notQuote, notBackslash, read⟩ := read
      rw [source, List.singleton_append, first_plain notQuote notBackslash,
        inductionHypothesis read]
      rfl
    | escape character =>
      obtain ⟨escapes, read⟩ := read
      rw [source, List.cons_append, List.singleton_append, first_escape escapes,
        inductionHypothesis read]
      rfl
    | backslash =>
      obtain ⟨stays, read⟩ := read
      rw [← List.head?_append] at stays
      rw [source, List.singleton_append, first_backslash stays, inductionHypothesis read]
      rfl

end QuotedPart

namespace Piece

/-- The first piece of a line is read as this piece, and together with what is behind it it is the
line. Nothing is behind a piece that is cut short. -/
theorem first_spec (character : Char) (rest : List Char) :
    (first character rest).1.source ++ (first character rest).2 = character :: rest ∧
      (first character rest).1.WellFormed ∧
      ((first character rest).1.isWhole ∨ (first character rest).2 = []) := by
  unfold first
  split
  · next blank => exact ⟨rfl, blank, Or.inl rfl⟩
  · next notBlank =>
    split
    · next quote =>
      subst quote
      have divided := List.takeWhile_append_dropWhile (p := (· ≠ '\'')) (l := rest)
      have before : '\'' ∉ rest.takeWhile (· ≠ '\'') := fun member => by
        simpa using List.mem_takeWhile_imp member
      split
      · next nothing =>
        rw [nothing, List.append_nil] at divided
        exact ⟨by simp [source], divided ▸ before, Or.inr rfl⟩
      · next closing later found =>
        have isQuote : closing = '\'' := by
          have head := List.head?_dropWhile_not (· ≠ '\'') rest
          rw [found] at head
          simpa using head
        rw [found, isQuote] at divided
        exact ⟨by rw [source, List.append_assoc, List.cons_append, List.singleton_append, divided],
          before, Or.inl rfl⟩
    · next notSingle =>
      split
      · next quote =>
        subst quote
        obtain ⟨same, read, ends⟩ := QuotedPart.first_spec rest
        split
        · next parts found =>
          rw [found] at same read
          exact ⟨by simpa [source] using same, read, Or.inr rfl⟩
        · next parts closing later found =>
          rw [found] at same read ends
          obtain ⟨later, ends⟩ := ends.resolve_left (by simp)
          obtain ⟨rfl, rfl⟩ := List.cons_eq_cons.mp ends
          exact ⟨by simpa [source] using same, read, Or.inl rfl⟩
      · next notDouble =>
        split
        · next backslash =>
          subst backslash
          split
          · exact ⟨rfl, trivial, Or.inr rfl⟩
          · exact ⟨rfl, trivial, Or.inl rfl⟩
        · next notBackslash =>
          refine ⟨rfl, ?_, Or.inl rfl⟩
          simp only [List.mem_cons, List.not_mem_nil, or_false, not_or] at notBlank
          simp [WellFormed, notBlank, notSingle, notDouble, notBackslash]

/-- What is read as a piece is the first piece of the line that starts with it. -/
theorem first_source {piece : Piece} {later : List Char} (wellFormed : piece.WellFormed)
    (ends : piece.isWhole ∨ later = []) :
    ∃ character rest, piece.source ++ later = character :: rest ∧
      first character rest = (piece, later) := by
  cases piece with
  | blank character => exact ⟨character, later, rfl, if_pos wellFormed⟩
  | bare character =>
    refine ⟨character, later, rfl, ?_⟩
    simp only [WellFormed, List.mem_cons, List.not_mem_nil, or_false, not_or] at wellFormed
    obtain ⟨notSpace, notTab, notSingle, notDouble, notBackslash⟩ := wellFormed
    simp [first, notSpace, notTab, notSingle, notDouble, notBackslash]
  | escaped character => exact ⟨'\\', character :: later, rfl, rfl⟩
  | single content =>
    refine ⟨'\'', content ++ '\'' :: later, by simp [source], ?_⟩
    have inside : ∀ character ∈ content, decide (character ≠ '\'') = true := fun character member =>
      decide_eq_true fun quote => wellFormed (quote ▸ member)
    have behind : (content ++ '\'' :: later).dropWhile (· ≠ '\'') = '\'' :: later := by
      rw [List.dropWhile_append_of_pos inside]
      rfl
    have before : (content ++ '\'' :: later).takeWhile (· ≠ '\'') = content := by
      rw [List.takeWhile_append_of_pos inside]
      simp
    unfold first
    rw [if_neg (by decide), if_pos rfl, behind, before]
  | double parts =>
    refine ⟨'"', parts.flatMap QuotedPart.source ++ '"' :: later, by simp [source], ?_⟩
    have read : QuotedPart.AreRead ('"' :: later).head? parts := wellFormed
    unfold first
    rw [if_neg (by decide), if_neg (by decide), if_pos rfl,
      QuotedPart.first_source read (Or.inr ⟨later, rfl⟩)]
  | openSingle content =>
    obtain rfl : later = [] := ends.resolve_left (by simp [isWhole])
    refine ⟨'\'', content, by simp [source], ?_⟩
    have behind : content.dropWhile (· ≠ '\'') = [] := by
      rw [List.dropWhile_eq_nil_iff]
      exact fun character member => decide_eq_true fun quote => wellFormed (quote ▸ member)
    unfold first
    rw [if_neg (by decide), if_pos rfl, behind]
  | openDouble parts =>
    obtain rfl : later = [] := ends.resolve_left (by simp [isWhole])
    refine ⟨'"', parts.flatMap QuotedPart.source, by simp [source], ?_⟩
    have read : QuotedPart.AreRead [].head? parts := wellFormed
    have found := QuotedPart.first_source read (Or.inl rfl)
    rw [List.append_nil] at found
    unfold first
    rw [if_neg (by decide), if_neg (by decide), if_pos rfl, found]
  | loneBackslash =>
    obtain rfl : later = [] := ends.resolve_left (by simp [isWhole])
    exact ⟨'\\', [], rfl, rfl⟩

end Piece

/-! ### There is exactly one way to cut a line -/

/-- Every line can be cut. -/
theorem exists_cuts (line : List Char) : ∃ pieces, Cuts line pieces := by
  induction size : line.length using Nat.strongRecOn generalizing line with
  | ind _ shorter =>
    subst size
    cases line with
    | nil => exact ⟨[], rfl, by simp, by simp⟩
    | cons character rest =>
      obtain ⟨same, wellFormed, ends⟩ := Piece.first_spec character rest
      have less : (Piece.first character rest).2.length < (character :: rest).length := by
        have some := List.length_pos_iff.mpr (Piece.first character rest).1.source_ne_nil
        rw [← same, List.length_append]
        omega
      obtain ⟨pieces, cut⟩ := shorter _ less _ rfl
      exact ⟨_, cuts_cons_iff.mpr ⟨wellFormed, _, same, ends, cut⟩⟩

/-- The first of the pieces of a line is told by its characters, and the others cut what is behind
it. -/
theorem Cuts.first_eq {line : List Char} {piece : Piece} {pieces : List Piece}
    (cut : Cuts line (piece :: pieces)) :
    ∃ character rest later, line = character :: rest ∧
      Piece.first character rest = (piece, later) ∧ Cuts later pieces := by
  obtain ⟨wellFormed, later, rfl, ends, behind⟩ := cuts_cons_iff.mp cut
  obtain ⟨character, rest, same, first⟩ := Piece.first_source wellFormed ends
  exact ⟨character, rest, later, same, first, behind⟩

/-- A line can be cut in one way only. -/
theorem Cuts.unique {line : List Char} {pieces others : List Piece} (cut : Cuts line pieces)
    (other : Cuts line others) : pieces = others := by
  induction pieces generalizing line others with
  | nil =>
    obtain rfl : [] = line := cut.source_eq
    exact other.eq_nil.symm
  | cons piece pieces inductionHypothesis =>
    cases others with
    | nil =>
      obtain rfl : [] = line := other.source_eq
      exact cut.eq_nil
    | cons second others =>
      obtain ⟨character, rest, later, rfl, first, cut⟩ := cut.first_eq
      obtain ⟨_, _, otherLater, same, otherFirst, other⟩ := other.first_eq
      obtain ⟨rfl, rfl⟩ := List.cons_eq_cons.mp same
      obtain ⟨rfl, rfl⟩ := Prod.mk.inj (first.symm.trans otherFirst)
      rw [inductionHypothesis cut other]

/-! ### A scan reads the pieces one after the other -/

/-- A text in front of the current word. -/
def Reading.prepend (text : List Char) (reading : Reading) : Reading :=
  { reading with current := text ++ reading.current }

/-- What a piece adds to the reading of what is behind it. -/
def Piece.before (piece : Piece) (reading : Reading) : Reading :=
  if piece.separates then reading.close else reading.prepend piece.text

/-- A text in front of a word that has ended is a word of its own. -/
theorem Reading.words_close_prepend (reading : Reading) (text : List Char) :
    (reading.close.prepend text).words = words ⟨text, []⟩ ++ reading.words := by
  by_cases nothing : text = [] <;> simp [words, close, prepend, nothing]

theorem isBlank_iff {character : Char} : isBlank character ↔ character ∈ [' ', '\t'] := by
  simp [isBlank]

theorem scan_bare_blank {character : Char} (blank : isBlank character) (rest : List Char) :
    scan .bare (character :: rest) = (scan .bare rest).close := by
  rw [scan.eq_def]
  simp [blank]

theorem scan_single_close (rest : List Char) : scan .single ('\'' :: rest) = scan .bare rest := by
  rw [scan, if_pos rfl]

theorem scan_single_plain {character : Char} (notQuote : character ≠ '\'') (rest : List Char) :
    scan .single (character :: rest) = (scan .single rest).push character := by
  rw [scan, if_neg notQuote]

theorem scan_single {content : List Char} (inside : '\'' ∉ content) (after : List Char) :
    scan .single (content ++ after) = (scan .single after).prepend content := by
  induction content with
  | nil => rfl
  | cons character rest inductionHypothesis =>
    rw [List.mem_cons, not_or] at inside
    rw [List.cons_append, scan_single_plain (Ne.symm inside.1), inductionHypothesis inside.2]
    rfl

theorem isEscapable_iff {character : Char} :
    isEscapable character ↔ character ∈ ['\\', '$', '"', '\n'] := by
  simp [isEscapable, or_assoc]

theorem scan_double_close (rest : List Char) : scan .double ('"' :: rest) = scan .bare rest := by
  rw [scan.eq_def]
  rfl

theorem scan_double_plain {character : Char} (notQuote : character ≠ '"')
    (notBackslash : character ≠ '\\') (rest : List Char) :
    scan .double (character :: rest) = (scan .double rest).push character := by
  rw [scan.eq_def]
  simp [notQuote, notBackslash]

theorem scan_double_escape {character : Char} (escapes : character ∈ ['\\', '$', '"', '\n'])
    (rest : List Char) :
    scan .double ('\\' :: character :: rest) = (scan .double rest).push character := by
  simp [scan, isEscapable_iff.mpr escapes]

theorem scan_double_backslash {text : List Char}
    (stays : ∀ follower ∈ text.head?, follower ∉ ['\\', '$', '"', '\n']) :
    scan .double ('\\' :: text) = (scan .double text).push '\\' := by
  cases text with
  | nil => simp [scan]
  | cons follower rest =>
    have ordinary := mt isEscapable_iff.mp (stays follower rfl)
    simp [scan, ordinary]

/-- Parts between double quotes are read as they are. -/
theorem scan_double {parts : List QuotedPart} {after : List Char}
    (read : QuotedPart.AreRead after.head? parts) :
    scan .double (parts.flatMap QuotedPart.source ++ after) =
      (scan .double after).prepend (parts.map QuotedPart.text) := by
  induction parts with
  | nil => rfl
  | cons part rest inductionHypothesis =>
    rw [List.flatMap_cons, List.append_assoc]
    cases part with
    | plain character =>
      obtain ⟨notQuote, notBackslash, read⟩ := read
      rw [QuotedPart.source, List.singleton_append, scan_double_plain notQuote notBackslash,
        inductionHypothesis read]
      rfl
    | escape character =>
      obtain ⟨escapes, read⟩ := read
      rw [QuotedPart.source, List.cons_append, List.singleton_append, scan_double_escape escapes,
        inductionHypothesis read]
      rfl
    | backslash =>
      obtain ⟨stays, read⟩ := read
      rw [← List.head?_append] at stays
      rw [QuotedPart.source, List.singleton_append, scan_double_backslash stays,
        inductionHypothesis read]
      rfl

theorem scan_bare_single (text : List Char) : scan .bare ('\'' :: text) = scan .single text := by
  rw [scan.eq_def]
  rfl

theorem scan_bare_double (text : List Char) : scan .bare ('"' :: text) = scan .double text := by
  rw [scan.eq_def]
  rfl

theorem scan_bare_bare {character : Char} (ordinary : (Piece.bare character).WellFormed)
    (rest : List Char) :
    scan .bare (character :: rest) = (scan .bare rest).push character := by
  simp only [Piece.WellFormed, List.mem_cons, List.not_mem_nil, or_false, not_or] at ordinary
  obtain ⟨notSpace, notTab, notSingle, notDouble, notBackslash⟩ := ordinary
  rw [scan.eq_def]
  simp [isBlank, notSpace, notTab, notSingle, notDouble, notBackslash]

/-- Over the characters of a piece a scan reads the piece. -/
theorem scan_source {piece : Piece} {later : List Char} (wellFormed : piece.WellFormed)
    (ends : piece.isWhole ∨ later = []) :
    scan .bare (piece.source ++ later) = piece.before (scan .bare later) := by
  cases piece with
  | blank character =>
    rw [Piece.source, List.singleton_append, scan_bare_blank (isBlank_iff.mpr wellFormed)]
    rfl
  | bare character => exact scan_bare_bare wellFormed later
  | escaped character => rfl
  | single content =>
    rw [Piece.source, List.append_assoc, List.cons_append, scan_bare_single,
      scan_single wellFormed, List.singleton_append, scan_single_close]
    rfl
  | double parts =>
    have read : QuotedPart.AreRead ('"' :: later).head? parts := wellFormed
    rw [Piece.source, List.append_assoc, List.cons_append, scan_bare_double,
      List.singleton_append, scan_double read, scan_double_close]
    rfl
  | openSingle content =>
    obtain rfl : later = [] := ends.resolve_left (by simp [Piece.isWhole])
    rw [Piece.source, List.cons_append, scan_bare_single, scan_single wellFormed]
    rfl
  | openDouble parts =>
    obtain rfl : later = [] := ends.resolve_left (by simp [Piece.isWhole])
    have read : QuotedPart.AreRead [].head? parts := wellFormed
    rw [Piece.source, List.cons_append, scan_bare_double, scan_double read]
    rfl
  | loneBackslash =>
    obtain rfl : later = [] := ends.resolve_left (by simp [Piece.isWhole])
    rfl

/-- The reading of a line is what its pieces make of nothing. -/
theorem Cuts.scan_eq {line : List Char} {pieces : List Piece} (cut : Cuts line pieces) :
    scan .bare line = pieces.foldr Piece.before .done := by
  induction pieces generalizing line with
  | nil =>
    obtain rfl : [] = line := cut.source_eq
    rfl
  | cons piece pieces inductionHypothesis =>
    obtain ⟨wellFormed, later, rfl, ends, behind⟩ := cuts_cons_iff.mp cut
    rw [scan_source wellFormed ends, inductionHypothesis behind, List.foldr_cons]

/-- What pieces make of nothing: the text of the first run is the current word, and the texts of the
other runs that are not empty are the later ones. -/
theorem foldr_before (pieces : List Piece) :
    ∃ run runs, pieces.splitOnP Piece.separates = run :: runs ∧
      pieces.foldr Piece.before .done =
        ⟨run.flatMap Piece.text, (runs.map (·.flatMap Piece.text)).filter (· ≠ [])⟩ := by
  induction pieces with
  | nil => exact ⟨[], [], rfl, rfl⟩
  | cons piece pieces inductionHypothesis =>
    obtain ⟨run, runs, split, folded⟩ := inductionHypothesis
    rw [List.foldr_cons, folded, Piece.before]
    by_cases separates : piece.separates
    · refine ⟨[], run :: runs, by simp [List.splitOnP_cons_eq_if_modifyHead, separates, split], ?_⟩
      rw [if_pos separates, Reading.close, Reading.words]
      by_cases nothing : run.flatMap Piece.text = [] <;> simp [nothing]
    · refine ⟨piece :: run, runs, ?_, ?_⟩
      · simp [List.splitOnP_cons_eq_if_modifyHead, separates, split]
      · rw [if_neg separates]
        rfl

/-- Every line can be cut into pieces in exactly one way, and its words are what the runs of pieces
between blanks stand for, less those that stand for nothing. -/
theorem splitWords_eq_wordsOf (line : String) :
    ∃ pieces, (∀ others, Cuts line.toList others ↔ others = pieces) ∧
      splitWords line = (wordsOf pieces).map String.ofList := by
  obtain ⟨pieces, cut⟩ := exists_cuts line.toList
  refine ⟨pieces, fun others => ⟨fun other => other.unique cut, fun same => same ▸ cut⟩, ?_⟩
  obtain ⟨run, runs, split, folded⟩ := foldr_before pieces
  rw [splitWords, cut.scan_eq, folded, wordsOf, split, Reading.words]
  by_cases nothing : run.flatMap Piece.text = [] <;> simp [nothing]

end CommandShell
