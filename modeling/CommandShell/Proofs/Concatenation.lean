/-
This file says what becomes of the words of a line when more is written behind it.
Only the last word can become another one. If the line ends outside quotes and a
blank comes next, no word changes and those of what follows come behind them. The
content is that a blank divides a line so nowhere else, since inside quotes or
behind a backslash it belongs to a word.

The reading of a line puts characters in front of what it finds behind them, so it
says little about a line that goes on. Here the line is taken from its start, by a
scanner that holds the word it is at and the words before it. The scanner does not
look ahead: at a backslash it waits, and the next character decides. What carries
the proofs is that no step of the scanner changes the words that it makes of the
characters taken and of those that are left.
-/

import CommandShell.Proofs.Quoting

namespace CommandShell

/-! ### A scanner -/

/-- How the next character is taken. -/
inductive ScanMode
  /-- As the quoting says. -/
  | within (quoting : Quoting)
  /-- As it is, behind a backslash outside quotes. -/
  | escaping
  /-- As the one that decides what the backslash before it stands for, in double quotes. -/
  | deciding
  deriving DecidableEq, Repr

/-- What a character adds to the current word, and how the one behind it is taken. There is neither
if the character ends the word. -/
def ScanMode.take : ScanMode → Char → Option (List Char × ScanMode)
  | .within .bare, character =>
    if isBlank character then none
    else if character = '\'' then some ([], .within .single)
    else if character = '"' then some ([], .within .double)
    else if character = '\\' then some ([], .escaping)
    else some ([character], .within .bare)
  | .within .single, character =>
    if character = '\'' then some ([], .within .bare)
    else some ([character], .within .single)
  | .within .double, character =>
    if character = '"' then some ([], .within .bare)
    else if character = '\\' then some ([], .deciding)
    else some ([character], .within .double)
  | .escaping, character => some ([character], .within .bare)
  | .deciding, character =>
    if isEscapable character then some ([character], .within .double)
    else some (['\\', character], .within .double)

/-- A line that has been read up to some character. -/
structure Scanner where
  mode : ScanMode
  /-- What the current word has so far. -/
  current : List Char
  /-- The words before the current one. -/
  finished : List (List Char)
  deriving DecidableEq, Repr

namespace Scanner

/-- Nothing has been read. -/
def start : Scanner := ⟨.within .bare, [], []⟩

/-- Take one character. A word that ends empty is dropped. -/
def step (scanner : Scanner) (character : Char) : Scanner :=
  match scanner.mode.take character with
  | none => ⟨.within .bare, [], scanner.finished ++ Reading.words ⟨scanner.current, []⟩⟩
  | some (text, mode) => ⟨mode, scanner.current ++ text, scanner.finished⟩

/-- Take the characters of a text one after the other. -/
def run (scanner : Scanner) (text : List Char) : Scanner :=
  text.foldl step scanner

end Scanner

/-! ### What a step keeps -/

/-- The reading of what is left of a line. A backslash that waits for a character is read again. -/
def ScanMode.read : ScanMode → List Char → Reading
  | .within quoting, rest => scan quoting rest
  | .escaping, rest => scan .bare ('\\' :: rest)
  | .deciding, rest => scan .double ('\\' :: rest)

/-- What is left of a line is read by what its first character adds, in front of the reading of the
others. -/
theorem ScanMode.read_cons (mode : ScanMode) (character : Char) (rest : List Char) :
    mode.read (character :: rest) =
      match mode.take character with
      | none => (scan .bare rest).close
      | some (text, next) => (next.read rest).prepend text := by
  fun_cases take mode character with
  | case1 character blank => exact scan_bare_blank blank rest
  | case2 => exact scan_bare_single rest
  | case3 => exact scan_bare_double rest
  | case4 => rfl
  | case5 character notBlank notSingle notDouble notBackslash =>
    exact scan_bare_bare (by simp_all [Piece.WellFormed, isBlank]) rest
  | case6 => exact scan_single_close rest
  | case7 character notSingle => exact scan_single_plain notSingle rest
  | case8 => exact scan_double_close rest
  | case9 => rfl
  | case10 character notDouble notBackslash => exact scan_double_plain notDouble notBackslash rest
  | case11 => rfl
  | case12 character escapes => exact scan_double_escape (isEscapable_iff.mp escapes) rest
  | case13 character stays =>
    have ordinary : character ∉ ['\\', '$', '"', '\n'] := mt isEscapable_iff.mpr stays
    have backslash : deciding.read (character :: rest) =
        (scan .double (character :: rest)).push '\\' :=
      scan_double_backslash (by simpa using ordinary)
    rw [backslash, scan_double_plain (by grind) (by grind)]
    rfl

theorem Reading.words_inj {first second : List Char} :
    words ⟨first, []⟩ = words ⟨second, []⟩ ↔ first = second := by
  cases first <;> cases second <;> simp [words]

namespace Scanner

/-- The words of the line if this is the rest of it. -/
def wordsWith (scanner : Scanner) (rest : List Char) : List (List Char) :=
  scanner.finished ++ ((scanner.mode.read rest).prepend scanner.current).words

/-- No step changes the words of the line. -/
theorem wordsWith_step (scanner : Scanner) (character : Char) (rest : List Char) :
    (scanner.step character).wordsWith rest = scanner.wordsWith (character :: rest) := by
  have read := scanner.mode.read_cons character rest
  unfold step
  cases taken : scanner.mode.take character with
  | none =>
    rw [taken] at read
    rw [wordsWith, wordsWith, read, Reading.words_close_prepend, ← List.append_assoc]
    rfl
  | some found =>
    rw [taken] at read
    rw [wordsWith, wordsWith, read]
    simp only [Reading.prepend, List.append_assoc]

/-- A text can be taken from the rest of a line without changing the words of it. -/
theorem wordsWith_run (scanner : Scanner) (text rest : List Char) :
    (scanner.run text).wordsWith rest = scanner.wordsWith (text ++ rest) := by
  induction text generalizing scanner with
  | nil => rfl
  | cons character text inductionHypothesis =>
    rw [run, List.foldl_cons, List.cons_append, ← wordsWith_step]
    exact inductionHypothesis (scanner.step character)

end Scanner

/-- The words of a line with more behind it, from where the line ends. -/
theorem splitWords_append_eq (line more : String) :
    splitWords (line ++ more) =
      ((Scanner.start.run line.toList).wordsWith more.toList).map String.ofList := by
  rw [Scanner.wordsWith_run, splitWords, String.toList_append]
  rfl

theorem splitWords_eq_wordsWith (line : String) :
    splitWords line = ((Scanner.start.run line.toList).wordsWith []).map String.ofList := by
  have whole := splitWords_append_eq line ""
  rwa [String.append_empty] at whole

/-! ### Where a line ends -/

/-- Whether a line ends outside quotes, and not behind a backslash that waits for a character. -/
def EndsOutsideQuotes (line : String) : Prop :=
  (Scanner.start.run line.toList).mode = .within .bare

instance (line : String) : Decidable (EndsOutsideQuotes line) :=
  inferInstanceAs (Decidable (_ = _))

namespace ScanMode

/-- How the character behind this one is taken. -/
def next (mode : ScanMode) (character : Char) : ScanMode :=
  match mode.take character with
  | none => .within .bare
  | some (_, next) => next

/-- How the character behind a text is taken. -/
def after (mode : ScanMode) (text : List Char) : ScanMode :=
  text.foldl next mode

@[simp]
theorem after_nil (mode : ScanMode) : mode.after [] = mode := rfl

@[simp]
theorem after_cons (mode : ScanMode) (character : Char) (rest : List Char) :
    mode.after (character :: rest) = (mode.next character).after rest := rfl

@[simp]
theorem after_append (mode : ScanMode) (first second : List Char) :
    mode.after (first ++ second) = (mode.after first).after second :=
  List.foldl_append

theorem after_single {content : List Char} (inside : '\'' ∉ content) :
    (within .single).after content = within .single := by
  induction content with
  | nil => rfl
  | cons character rest inductionHypothesis =>
    rw [List.mem_cons, not_or] at inside
    have stays : (within .single).next character = within .single := by
      rw [next, take, if_neg (Ne.symm inside.1)]
    rw [after_cons, stays]
    exact inductionHypothesis inside.2

theorem next_double_plain {character : Char} (notQuote : character ≠ '"')
    (notBackslash : character ≠ '\\') :
    (within .double).next character = within .double := by
  rw [next, take, if_neg notQuote, if_neg notBackslash]

/-- A backslash in double quotes is done with when one more character has come. -/
theorem next_deciding (character : Char) : deciding.next character = within .double := by
  rw [next, take]
  cases isEscapable character <;> rfl

/-- Parts of a text in double quotes leave the scanner in these quotes. It may wait behind a last
backslash, which then does not escape the character that follows. -/
theorem after_parts {follower : Option Char} {parts : List QuotedPart}
    (read : QuotedPart.AreRead follower parts) :
    (within .double).after (parts.flatMap QuotedPart.source) = within .double ∨
      (within .double).after (parts.flatMap QuotedPart.source) = deciding ∧
        ∀ character ∈ follower, character ∉ ['\\', '$', '"', '\n'] := by
  induction parts with
  | nil => exact Or.inl rfl
  | cons part rest inductionHypothesis =>
    rw [List.flatMap_cons, after_append]
    cases part with
    | plain character =>
      obtain ⟨notQuote, notBackslash, read⟩ := read
      rw [QuotedPart.source, after_cons, after_nil, next_double_plain notQuote notBackslash]
      exact inductionHypothesis read
    | escape character =>
      obtain ⟨-, read⟩ := read
      have waits : (within .double).next '\\' = deciding := rfl
      rw [QuotedPart.source, after_cons, after_cons, after_nil, waits, next_deciding]
      exact inductionHypothesis read
    | backslash =>
      obtain ⟨stays, read⟩ := read
      have later := inductionHypothesis read
      have waits : (within .double).next '\\' = deciding := rfl
      rw [QuotedPart.source, after_cons, after_nil, waits]
      -- The backslash waits for good only if it is the last part.
      cases text : rest.flatMap QuotedPart.source with
      | nil =>
        rw [text] at stays
        exact Or.inr ⟨rfl, by simpa using stays⟩
      | cons character others =>
        rw [text] at stays later
        have ordinary : character ∉ ['\\', '$', '"', '\n'] := stays character rfl
        simp only [List.mem_cons, not_or] at ordinary
        rw [after_cons, next_double_plain ordinary.2.2.1 ordinary.1] at later
        rwa [after_cons, next_deciding]

/-- A piece leaves the scanner outside quotes just if it is not cut short. -/
theorem after_source {piece : Piece} (wellFormed : piece.WellFormed) :
    (within .bare).after piece.source = within .bare ↔ piece.isWhole := by
  have single : (within .bare).next '\'' = within .single := rfl
  have double : (within .bare).next '"' = within .double := rfl
  cases piece with
  | blank character =>
    have blank : isBlank character := isBlank_iff.mpr wellFormed
    simp [Piece.source, Piece.isWhole, next, take, blank]
  | bare character =>
    simp_all [Piece.source, Piece.isWhole, Piece.WellFormed, next, take, isBlank]
  | escaped character => exact ⟨fun _ => rfl, fun _ => rfl⟩
  | single content =>
    refine ⟨fun _ => rfl, fun _ => ?_⟩
    rw [Piece.source, List.cons_append, after_cons, single, after_append, after_single wellFormed]
    rfl
  | double parts =>
    refine ⟨fun _ => rfl, fun _ => ?_⟩
    have read : QuotedPart.AreRead (some '"') parts := wellFormed
    have inside := after_parts read
    rw [Piece.source, List.cons_append, after_cons, double, after_append,
      inside.resolve_right (by simp)]
    rfl
  | openSingle content =>
    rw [Piece.source, after_cons, single, after_single wellFormed]
    simp [Piece.isWhole]
  | openDouble parts =>
    rw [Piece.source, after_cons, double]
    have read : QuotedPart.AreRead none parts := wellFormed
    rcases after_parts read with inside | ⟨inside, -⟩ <;> simp [inside, Piece.isWhole]
  | loneBackslash => decide

end ScanMode

theorem Scanner.mode_run (scanner : Scanner) (text : List Char) :
    (scanner.run text).mode = scanner.mode.after text := by
  induction text generalizing scanner with
  | nil => rfl
  | cons character text inductionHypothesis =>
    have own : (scanner.step character).mode = scanner.mode.next character := by
      unfold step ScanMode.next
      split <;> rfl
    rw [run, List.foldl_cons, ScanMode.after_cons, ← own]
    exact inductionHypothesis (scanner.step character)

/-- A line ends outside quotes and not behind a waiting backslash just if none of its pieces is cut
short. -/
theorem Cuts.endsOutsideQuotes_iff {line : String} {pieces : List Piece}
    (cut : Cuts line.toList pieces) :
    EndsOutsideQuotes line ↔ ∀ piece ∈ pieces, piece.isWhole := by
  rw [EndsOutsideQuotes, Scanner.mode_run]
  generalize line.toList = text at cut
  show (ScanMode.within .bare).after text = _ ↔ _
  induction pieces generalizing text with
  | nil =>
    obtain rfl : [] = text := cut.source_eq
    simp
  | cons piece pieces inductionHypothesis =>
    obtain ⟨wellFormed, later, rfl, ends, behind⟩ := cuts_cons_iff.mp cut
    have own := ScanMode.after_source wellFormed
    rw [ScanMode.after_append, List.forall_mem_cons]
    rcases ends with whole | rfl
    · rw [own.mpr whole, inductionHypothesis _ behind]
      simp [whole]
    · obtain rfl := behind.eq_nil
      simpa using own

/-! ### More behind a line -/

theorem ScanMode.later_read_nil (mode : ScanMode) : (mode.read []).later = [] := by
  cases mode with
  | within quoting => cases quoting <;> rfl
  | escaping => rfl
  | deciding => rfl

/-- Where a line does not end outside quotes, a space behind it belongs to the last word. -/
theorem ScanMode.read_space {mode : ScanMode} (inside : mode ≠ .within .bare) :
    mode.read [' '] = ⟨(mode.read []).current ++ [' '], []⟩ := by
  cases mode with
  | within quoting =>
    cases quoting with
    | bare => exact absurd rfl inside
    | single => rfl
    | double => rfl
  | escaping => rfl
  | deciding => rfl

namespace Scanner

variable {scanner : Scanner}

/-- If the line ends here, there is at most one word more. -/
theorem wordsWith_nil (scanner : Scanner) :
    scanner.wordsWith [] =
      scanner.finished ++ Reading.words ⟨scanner.current ++ (scanner.mode.read []).current, []⟩ := by
  rw [wordsWith, Reading.prepend, scanner.mode.later_read_nil]

theorem dropLast_wordsWith_nil (scanner : Scanner) :
    (scanner.wordsWith []).dropLast <+: scanner.finished := by
  rw [wordsWith_nil, Reading.words]
  split
  · rw [List.append_nil]
    exact List.dropLast_prefix _
  · exact ⟨[], by rw [List.append_nil, List.dropLast_concat]⟩

theorem wordsWith_blank (bare : scanner.mode = .within .bare) {blank : Char}
    (separates : isBlank blank) (rest : List Char) :
    scanner.wordsWith (blank :: rest) = scanner.wordsWith [] ++ (scan .bare rest).words := by
  have read : scanner.mode.read (blank :: rest) = (scan .bare rest).close := by
    rw [bare]
    exact scan_bare_blank separates rest
  have nothing : (scanner.mode.read []).current = [] := by
    rw [bare]
    rfl
  rw [wordsWith, read, Reading.words_close_prepend, wordsWith_nil, nothing, List.append_nil,
    List.append_assoc]

theorem wordsWith_space_ne (inside : scanner.mode ≠ .within .bare) :
    scanner.wordsWith [' '] ≠ scanner.wordsWith [] := by
  rw [wordsWith_nil, wordsWith, ScanMode.read_space inside]
  intro same
  have longer := Reading.words_inj.mp (List.append_cancel_left same)
  simp at longer

end Scanner

/-- All words of a line but the last are the first words of any longer line. A blank behind a line
divides its words from those of what follows, whatever that is, just if the line ends outside quotes
and not behind a backslash that waits for a character. -/
theorem splitWords_append (line : String) :
    (∀ more, (splitWords line).dropLast <+: splitWords (line ++ more)) ∧
      (EndsOutsideQuotes line ↔ ∀ blank ∈ [' ', '\t'], ∀ more,
        splitWords (line ++ String.singleton blank ++ more) =
          splitWords line ++ splitWords more) := by
  refine ⟨fun more => ?_, fun bare blank member more => ?_, fun divides => ?_⟩
  · rw [splitWords_append_eq, splitWords_eq_wordsWith line, ← List.map_dropLast]
    have finished := Scanner.dropLast_wordsWith_nil (Scanner.start.run line.toList)
    exact (finished.trans (List.prefix_append _ _)).map _
  · rw [String.append_assoc, splitWords_append_eq, splitWords_eq_wordsWith line,
      String.toList_append, String.toList_singleton, List.singleton_append,
      Scanner.wordsWith_blank bare (isBlank_iff.mpr member), List.map_append]
    rfl
  · -- A space with nothing behind it already shows where the line ends.
    by_contra inside
    have space : (String.singleton ' ').toList = [' '] := String.toList_singleton _
    have nothing : splitWords "" = [] := rfl
    have same := divides ' ' List.mem_cons_self ""
    rw [String.append_empty, nothing, List.append_nil, splitWords_append_eq,
      splitWords_eq_wordsWith line, space] at same
    exact Scanner.wordsWith_space_ne inside
      ((List.map_inj_right fun _ _ => String.ofList_inj.mp).mp same)

/-- A line that ends behind a closing quote, with an open quote in what follows. -/
theorem splitWords_append_quotes :
    EndsOutsideQuotes "echo \"it's \\$5\"" ∧
      splitWords ("echo \"it's \\$5\"" ++ String.singleton '\t' ++ "'a  b\\") =
        ["echo", "it's $5"] ++ ["a  b\\"] := by
  have ends : EndsOutsideQuotes "echo \"it's \\$5\"" := by decide +kernel
  have first : splitWords "echo \"it's \\$5\"" = ["echo", "it's $5"] := by decide +kernel
  have second : splitWords "'a  b\\" = ["a  b\\"] := by decide +kernel
  have divided := (splitWords_append _).2.mp ends '\t' (by decide) "'a  b\\"
  rw [first, second] at divided
  exact ⟨ends, divided⟩

/-- A backslash at the end of a line stands for itself in double quotes, until a character comes that
it escapes. -/
example : splitWords "a \"b\\" = ["a", "b\\"] ∧ splitWords ("a \"b\\" ++ "$") = ["a", "b$"] := by
  decide +kernel

end CommandShell
