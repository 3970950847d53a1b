/-
This file says which pipelines a line can stand for, and writes a line for each of
them. The content is that quotes protect a word from the reading of the line but
not from the reading of its words: when the words are grouped it is no longer
known which of them were quoted, so a word that looks like an operator or a
separator is one. Only the word behind an operator may look like an operator.

A line is written as a list of written words with spaces between them. That each
of them is read back as its word is a fact about scanning one written word in
front of anything, and everything else is about lists.
-/

import CommandShell.Proofs.Grammar
import CommandShell.Proofs.Quoting
import CommandShell.Proofs.Splitting

namespace CommandShell

/-! ### Stages that a line may say -/

/-- A redirection that says itself for which stream it is. -/
structure StreamRedirect where
  stream : Stream
  mode : WriteMode
  target : String
  deriving DecidableEq, Repr

/-- A stage whose redirections say themselves for which streams they are, so that one of them can be
in the wrong place. -/
structure LooseStage where
  program : String
  args : List String
  stdout : Option StreamRedirect
  stderr : Option StreamRedirect
  deriving DecidableEq, Repr

/-- A redirection that is for this stream. -/
def Redirect.on (redirect : Redirect) (stream : Stream) : StreamRedirect :=
  ⟨stream, redirect.mode, redirect.target⟩

/-- The stage with its redirections in their places. -/
def Stage.loose (stage : Stage) : LooseStage :=
  ⟨stage.program, stage.args, stage.stdout.map (·.on .stdout), stage.stderr.map (·.on .stderr)⟩

namespace LooseStage

/-- The redirections of a stage, that of the standard output first. -/
def redirects (stage : LooseStage) : List StreamRedirect :=
  stage.stdout.toList ++ stage.stderr.toList

/-- What a stage has to be like for a line to say it. -/
structure Expressible (stage : LooseStage) : Prop where
  words : ∀ word ∈ stage.program :: stage.args,
    word ≠ "" ∧ word ≠ separator ∧ word ∉ operatorTable.map (·.1)
  targets : ∀ redirect ∈ stage.redirects, redirect.target ≠ "" ∧ redirect.target ≠ separator
  stdout : ∀ redirect ∈ stage.stdout, redirect.stream = .stdout
  stderr : ∀ redirect ∈ stage.stderr, redirect.stream = .stderr

end LooseStage

/-! ### Writing -/

/-- A character inside single quotes. A single quote is put behind a backslash outside of them. -/
def quotedCharacter (character : Char) : List Char :=
  if character = '\'' then ['\'', '\\', '\'', '\''] else [character]

/-- A word in single quotes. -/
def quoted (word : String) : String :=
  String.ofList ('\'' :: word.toList.flatMap quotedCharacter ++ ['\''])

/-- A choice of operators: one for each stream and mode. -/
structure Spelling where
  operator : Stream → WriteMode → String
  mem_table (stream : Stream) (mode : WriteMode) :
    (operator stream mode, stream, mode) ∈ operatorTable

/-- The shortest operators. -/
def Spelling.short : Spelling where
  operator
    | .stdout, .truncate => ">"
    | .stdout, .append => ">>"
    | .stderr, .truncate => "2>"
    | .stderr, .append => "2>>"
  mem_table stream mode := by cases stream <;> cases mode <;> simp [operatorTable]

/-- A word as it is written on a line. -/
inductive WrittenWord
  /-- In single quotes. -/
  | quoted (word : String)
  /-- As it is. -/
  | bare (word : String)

namespace WrittenWord

def source : WrittenWord → String
  | .quoted word => CommandShell.quoted word
  | .bare word => word

def word : WrittenWord → String
  | .quoted word | .bare word => word

/-- Whether the word can be written so. -/
def WellFormed : WrittenWord → Prop
  | .quoted word => word ≠ ""
  | .bare word => word ≠ "" ∧ ∀ character ∈ word.toList, (Piece.bare character).WellFormed

end WrittenWord

theorem scan_quotedCharacter (character : Char) (rest : List Char) :
    scan .single (quotedCharacter character ++ rest) = (scan .single rest).push character := by
  by_cases quote : character = '\''
  · subst quote
    calc scan .single ('\'' :: '\\' :: '\'' :: '\'' :: rest)
        = scan .bare ('\\' :: '\'' :: '\'' :: rest) := scan_single_close _
      _ = (scan .bare ('\'' :: rest)).push '\'' := rfl
      _ = (scan .single rest).push '\'' := by rw [scan_bare_single]
  · rw [quotedCharacter, if_neg quote, List.singleton_append, scan_single_plain quote]

theorem scan_single_quoted (characters rest : List Char) :
    scan .single (characters.flatMap quotedCharacter ++ rest) =
      (scan .single rest).prepend characters := by
  induction characters with
  | nil => rfl
  | cons character characters inductionHypothesis =>
    rw [List.flatMap_cons, List.append_assoc, scan_quotedCharacter, inductionHypothesis]
    rfl

theorem scan_quoted (word : String) (rest : List Char) :
    scan .bare ((quoted word).toList ++ rest) = (scan .bare rest).prepend word.toList := by
  rw [quoted, String.toList_ofList, List.append_assoc, List.cons_append, scan_bare_single,
    scan_single_quoted, List.singleton_append, scan_single_close]

theorem scan_bare_word {word : List Char}
    (ordinary : ∀ character ∈ word, (Piece.bare character).WellFormed) (rest : List Char) :
    scan .bare (word ++ rest) = (scan .bare rest).prepend word := by
  induction word with
  | nil => rfl
  | cons character word inductionHypothesis =>
    rw [List.cons_append, scan_bare_bare (ordinary character List.mem_cons_self),
      inductionHypothesis fun other member => ordinary other (List.mem_cons_of_mem _ member)]
    rfl

/-- A written word is read as the word. -/
theorem WrittenWord.WellFormed.scan_source {written : WrittenWord} (wellFormed : written.WellFormed)
    (rest : List Char) :
    scan .bare (written.source.toList ++ rest) =
      (scan .bare rest).prepend written.word.toList := by
  cases written with
  | bare word => exact scan_bare_word wellFormed.2 rest
  | quoted word => exact scan_quoted word rest

theorem WrittenWord.WellFormed.toList_ne_nil {written : WrittenWord}
    (wellFormed : written.WellFormed) : written.word.toList ≠ [] := by
  cases written with
  | quoted word => exact fun empty => wellFormed (String.toList_eq_nil_iff.mp empty)
  | bare word => exact fun empty => wellFormed.1 (String.toList_eq_nil_iff.mp empty)

/-- A word in front of a word that has ended is the first of the words. -/
theorem words_prepend_close {text : List Char} (some : text ≠ []) (reading : Reading) :
    (reading.close.prepend text).words = text :: reading.words := by
  rw [Reading.words_close_prepend, Reading.words, if_neg some, List.singleton_append]

/-- Words written with a space between them are the words of the line. -/
theorem splitWords_intercalate {written : List WrittenWord}
    (wellFormed : ∀ each ∈ written, each.WellFormed) :
    splitWords (" ".intercalate (written.map WrittenWord.source)) =
      written.map WrittenWord.word := by
  have space : " ".toList = [' '] := rfl
  have read : (scan .bare (" ".intercalate (written.map WrittenWord.source)).toList).words =
      written.map fun each => each.word.toList := by
    induction written with
    | nil => rfl
    | cons first others inductionHypothesis =>
      have some := (wellFormed first List.mem_cons_self).toList_ne_nil
      have own := (wellFormed first List.mem_cons_self).scan_source
      have later := inductionHypothesis fun each member =>
        wellFormed each (List.mem_cons_of_mem _ member)
      cases others with
      | nil =>
        have whole := own []
        rw [List.append_nil] at whole
        rw [List.map_singleton, String.intercalate_singleton, whole]
        exact words_prepend_close some .done
      | cons second others =>
        rw [List.map_cons] at later
        rw [List.map_cons, List.map_cons, String.intercalate_cons_cons, String.append_assoc,
          String.toList_append, own, List.map_cons, ← later, String.toList_append,
          space, List.singleton_append, scan_bare_blank (by decide)]
        exact words_prepend_close some _
  rw [splitWords, read, List.map_map]
  exact List.map_congr_left fun each member => String.ofList_toList

/-! ### Lines -/

def StreamRedirect.written (spelling : Spelling) (redirect : StreamRedirect) : List WrittenWord :=
  [.bare (spelling.operator redirect.stream redirect.mode), .quoted redirect.target]

namespace LooseStage

def written (spelling : Spelling) (stage : LooseStage) : List WrittenWord :=
  (stage.program :: stage.args).map .quoted ++
    stage.redirects.flatMap (·.written spelling)

def line (spelling : Spelling) (stage : LooseStage) : String :=
  " ".intercalate ((stage.written spelling).map WrittenWord.source)

end LooseStage

/-- The line of some stages. -/
def lineOf (spelling : Spelling) (stages : List LooseStage) : String :=
  " | ".intercalate (stages.map (·.line spelling))

/-- The words of a stage. -/
def LooseStage.words (spelling : Spelling) (stage : LooseStage) : List String :=
  (stage.written spelling).map WrittenWord.word

theorem lineOf_eq (spelling : Spelling) (stages : List LooseStage) :
    lineOf spelling stages = " ".intercalate
      (([.bare separator].intercalate (stages.map (·.written spelling))).map
        WrittenWord.source) := by
  rw [map_intercalate, List.map_map]
  have some : ∀ list ∈ stages.map fun stage => (stage.written spelling).map WrittenWord.source,
      list ≠ [] := by
    intro list member
    obtain ⟨stage, -, rfl⟩ := List.mem_map.mp member
    simp [LooseStage.written]
  have whole := intercalate_intercalate " " separator some
  rw [List.map_map] at whole
  exact whole

theorem bare_of_operator {operator : String}
    (member : operator ∈ separator :: operatorTable.map (·.1)) :
    (WrittenWord.bare operator).WellFormed := by
  simp only [separator, operatorTable, List.map_cons, List.map_nil, List.mem_cons,
    List.not_mem_nil, or_false] at member
  rcases member with rfl | rfl | rfl | rfl | rfl | rfl | rfl <;>
    exact ⟨by decide, by simp [Piece.WellFormed]⟩

/-- What is written for a stage can be read, and it does not end the stage. -/
theorem LooseStage.Expressible.written {stage : LooseStage} (expressible : stage.Expressible)
    (spelling : Spelling) :
    ∀ each ∈ stage.written spelling, each.WellFormed ∧ each.word ≠ separator := by
  intro each member
  rcases List.mem_append.mp member with isWord | isRedirect
  · obtain ⟨word, within, rfl⟩ := List.mem_map.mp isWord
    exact ⟨(expressible.words word within).1, (expressible.words word within).2.1⟩
  · obtain ⟨redirect, within, isPart⟩ := List.mem_flatMap.mp isRedirect
    rcases List.mem_pair.mp isPart with rfl | rfl
    · have isOperator := List.mem_map_of_mem (f := (·.1))
        (spelling.mem_table redirect.stream redirect.mode)
      have noSeparator : separator ∉ operatorTable.map (·.1) := by decide
      exact ⟨bare_of_operator (List.mem_cons_of_mem _ isOperator),
        fun same => noSeparator (same ▸ isOperator)⟩
    · exact expressible.targets redirect within

/-- The words of a line are those of its stages, with separators between them. -/
theorem splitWords_lineOf {stages : List LooseStage}
    (expressible : ∀ stage ∈ stages, stage.Expressible) (spelling : Spelling) :
    splitWords (lineOf spelling stages) =
      [separator].intercalate (stages.map (·.words spelling)) := by
  rw [lineOf_eq, splitWords_intercalate, map_intercalate, List.map_map]
  · rfl
  · intro each member
    rcases mem_of_mem_intercalate member with between | ⟨list, isStage, within⟩
    · obtain rfl := List.mem_singleton.mp between
      exact bare_of_operator List.mem_cons_self
    · obtain ⟨stage, member, rfl⟩ := List.mem_map.mp isStage
      exact ((expressible stage member).written spelling each within).1

/-! ### Reading what was written -/

def LooseStage.items (spelling : Spelling) (stage : LooseStage) : List Item :=
  (stage.program :: stage.args).map .plain ++ stage.redirects.map fun redirect =>
    .redirect (spelling.operator redirect.stream redirect.mode) redirect.stream redirect.mode
      redirect.target

theorem LooseStage.words_eq (spelling : Spelling) (stage : LooseStage) :
    stage.words spelling = (stage.items spelling).flatMap Item.source := by
  simp [words, written, items, List.map_flatMap, List.flatMap_map, Item.source, WrittenWord.word,
    StreamRedirect.written, Function.comp_def]

theorem Stage.reads_words {stage : Stage} (expressible : stage.loose.Expressible)
    (spelling : Spelling) : Reads (stage.loose.words spelling) stage := by
  refine ⟨stage.loose.items spelling, ⟨(stage.loose.words_eq spelling).symm, ?_⟩, ?_⟩
  · intro item member
    rcases List.mem_append.mp member with isWord | isRedirect
    · obtain ⟨word, within, rfl⟩ := List.mem_map.mp isWord
      exact (expressible.words word within).2.2
    · obtain ⟨redirect, -, rfl⟩ := List.mem_map.mp isRedirect
      exact spelling.mem_table redirect.stream redirect.mode
  · obtain ⟨program, args, stdout, stderr⟩ := stage
    have plain : ((program :: args).map Item.plain).filterMap Item.word? = program :: args := by
      rw [List.filterMap_map]
      exact List.filterMap_some
    have noRedirect (stream : Stream) :
        ((program :: args).map Item.plain).filterMap (Item.redirect? stream) = [] := by
      rw [List.filterMap_map]
      exact List.filterMap_eq_nil_iff.mpr fun _ _ => rfl
    refine ⟨?_, ?_, ?_⟩
    · rw [LooseStage.items, List.filterMap_append]
      show _ ++ _ = program :: args
      rw [Stage.loose]
      dsimp only
      rw [plain, List.filterMap_map]
      simp [LooseStage.redirects, Item.word?, Function.comp_def]
    · rw [LooseStage.items, List.filterMap_append, Stage.loose]
      dsimp only
      rw [noRedirect, List.nil_append]
      cases stdout <;> cases stderr <;> rfl
    · rw [LooseStage.items, List.filterMap_append, Stage.loose]
      dsimp only
      rw [noRedirect, List.nil_append]
      cases stdout <;> cases stderr <;> rfl

/-- Stages in their places that are expressible are read back from their line. -/
theorem ofWords_lineOf {pipeline : Pipeline} (some : pipeline ≠ [])
    (expressible : ∀ stage ∈ pipeline.map Stage.loose, stage.Expressible) (spelling : Spelling) :
    Pipeline.ofWords (splitWords (lineOf spelling (pipeline.map Stage.loose))) = .ok pipeline := by
  have words := splitWords_lineOf expressible spelling
  rw [List.map_map] at words
  have segments : (splitWords (lineOf spelling (pipeline.map Stage.loose))).splitOn separator =
      pipeline.map fun stage => stage.loose.words spelling := by
    rw [words]
    refine List.splitOn_intercalate separator ?_ (by simpa using some)
    intro list isStage within
    obtain ⟨stage, member, rfl⟩ := List.mem_map.mp isStage
    obtain ⟨each, written, same⟩ := List.mem_map.mp within
    exact ((expressible _ (List.mem_map_of_mem member)).written spelling each written).2 same
  rw [ofWords_eq_ofSegments, segments, ofSegments_eq_ok_iff, List.forall₂_map_left_iff]
  · refine List.forall₂_same.mpr fun stage member => ?_
    exact stage.reads_words (expressible _ (List.mem_map_of_mem member)) spelling
  · intro empty
    have isStage : [] ∈ pipeline.map fun stage => stage.loose.words spelling := by
      rw [← segments, empty]
      exact List.mem_singleton.mpr rfl
    obtain ⟨stage, -, noWord⟩ := List.mem_map.mp isStage
    cases noWord

/-- The words of one stage that is expressible are read as this stage. -/
theorem ofWords_words {stage : Stage} (expressible : stage.loose.Expressible)
    (spelling : Spelling) : Pipeline.ofWords (stage.loose.words spelling) = .ok [stage] := by
  have single : ∀ loose ∈ [stage].map Stage.loose, loose.Expressible := by simpa using expressible
  have read := ofWords_lineOf (List.cons_ne_nil stage []) single spelling
  rwa [splitWords_lineOf single, List.map_singleton, List.map_singleton,
    List.intercalate_singleton] at read

/-! ### What can be read -/

/-- No word of a line is empty. -/
theorem splitWords_ne_empty (line : String) : ∀ word ∈ splitWords line, word ≠ "" := by
  obtain ⟨pieces, cut⟩ := exists_cuts line.toList
  obtain ⟨run, runs, -, folded⟩ := foldr_before pieces
  intro word member
  obtain ⟨text, within, rfl⟩ := List.mem_map.mp member
  rw [cut.scan_eq, folded, Reading.words] at within
  have some : text ≠ [] := by
    dsimp only at within
    split at within
    · simpa using (List.mem_filter.mp within).2
    · next someText =>
      rcases List.mem_cons.mp within with rfl | later
      · exact someText
      · simpa using (List.mem_filter.mp later).2
  exact fun empty => some (by simpa using congrArg String.toList empty)

/-- A stage is expressible if this is so of its words and its targets. -/
theorem Stage.expressible_of {stage : Stage}
    (words : ∀ word ∈ stage.program :: stage.args,
      word ≠ "" ∧ word ≠ separator ∧ word ∉ operatorTable.map (·.1))
    (targets : ∀ redirect ∈ stage.stdout.toList ++ stage.stderr.toList,
      redirect.target ≠ "" ∧ redirect.target ≠ separator) : stage.loose.Expressible where
  words := words
  targets redirect member := by
    rcases List.mem_append.mp member with isOutput | isError
    · obtain ⟨own, isOwn, rfl⟩ := Option.map_eq_some_iff.mp (Option.mem_toList.mp isOutput)
      exact targets own (List.mem_append_left _ (Option.mem_toList.mpr isOwn))
    · obtain ⟨own, isOwn, rfl⟩ := Option.map_eq_some_iff.mp (Option.mem_toList.mp isError)
      exact targets own (List.mem_append_right _ (Option.mem_toList.mpr isOwn))
  stdout redirect member := by
    obtain ⟨_, -, rfl⟩ := Option.map_eq_some_iff.mp member
    rfl
  stderr redirect member := by
    obtain ⟨_, -, rfl⟩ := Option.map_eq_some_iff.mp member
    rfl

/-- A stage that is read consists of words of its segment, and only targets can be operators. -/
theorem Reads.expressible {segment : List String} {stage : Stage} (reads : Reads segment stage)
    (ordinary : ∀ word ∈ segment, word ≠ "" ∧ word ≠ separator) : stage.loose.Expressible := by
  obtain ⟨items, ⟨rfl, wellFormed⟩, made⟩ := reads
  have within {item : Item} (member : item ∈ items) {word : String} (part : word ∈ item.source) :
      word ≠ "" ∧ word ≠ separator := ordinary word (List.mem_flatMap.mpr ⟨item, member, part⟩)
  have target {stream : Stream} {redirect : Redirect}
      (last : (items.filterMap (Item.redirect? stream)).getLast? = some redirect) :
      redirect.target ≠ "" ∧ redirect.target ≠ separator := by
    obtain ⟨item, member, found⟩ := List.mem_filterMap.mp (List.mem_of_getLast? last)
    cases item with
    | plain => cases found
    | redirect operator other mode name =>
      by_cases same : other = stream
      · simp only [Item.redirect?, if_pos same, Option.some.injEq] at found
        subst found
        exact within member (List.mem_cons_of_mem _ (List.mem_singleton.mpr rfl))
      · simp [Item.redirect?, same] at found
  refine Stage.expressible_of ?_ ?_
  · intro word member
    have isWord : word ∈ items.filterMap Item.word? := made.words ▸ member
    obtain ⟨item, member, found⟩ := List.mem_filterMap.mp isWord
    cases item with
    | redirect => cases found
    | plain =>
      cases found
      have ordinary := within member (List.mem_singleton.mpr rfl)
      exact ⟨ordinary.1, ordinary.2, wellFormed _ member⟩
  · intro redirect member
    rcases List.mem_append.mp member with isOutput | isError
    · exact target (made.stdout.trans (Option.mem_toList.mp isOutput))
    · exact target (made.stderr.trans (Option.mem_toList.mp isError))

theorem expressible_of_reads {segments : List (List String)} {pipeline : Pipeline}
    (reads : List.Forall₂ Reads segments pipeline)
    (ordinary : ∀ segment ∈ segments, ∀ word ∈ segment, word ≠ "" ∧ word ≠ separator) :
    ∀ stage ∈ pipeline, stage.loose.Expressible := by
  induction reads with
  | nil => simp
  | cons first others inductionHypothesis =>
    intro stage member
    rcases List.mem_cons.mp member with rfl | later
    · exact first.expressible (ordinary _ List.mem_cons_self)
    · exact inductionHypothesis (fun segment isSegment =>
        ordinary segment (List.mem_cons_of_mem _ isSegment)) stage later

/-- Stages whose redirections are in the places of their streams have them there without saying
so. -/
theorem exists_pipeline {stages : List LooseStage}
    (expressible : ∀ stage ∈ stages, stage.Expressible) :
    ∃ pipeline : Pipeline, pipeline.map Stage.loose = stages := by
  have place {slot : Option StreamRedirect} {stream : Stream}
      (own : ∀ redirect ∈ slot, redirect.stream = stream) :
      ∃ redirect : Option Redirect, redirect.map (·.on stream) = slot := by
    cases slot with
    | none => exact ⟨none, rfl⟩
    | some redirect =>
      obtain rfl := own redirect rfl
      exact ⟨some ⟨redirect.mode, redirect.target⟩, rfl⟩
  induction stages with
  | nil => exact ⟨[], rfl⟩
  | cons stage rest inductionHypothesis =>
    obtain ⟨pipeline, rfl⟩ := inductionHypothesis fun other member =>
      expressible other (List.mem_cons_of_mem _ member)
    have own := expressible stage List.mem_cons_self
    obtain ⟨stdout, isStdout⟩ := place own.stdout
    obtain ⟨stderr, isStderr⟩ := place own.stderr
    refine ⟨⟨stage.program, stage.args, stdout, stderr⟩ :: pipeline, ?_⟩
    rw [List.map_cons, Stage.loose, isStdout, isStderr]

/-- A line says some stages just if there is a stage, every word is there and none of them could be
taken for a separator or an operator, every target is there and none of them could be taken for a
separator, and every redirection is in the place of its stream. In that case a line is made of the
words in single quotes and of bare operators, and it says just these stages. -/
theorem exists_line_iff_and_lineOf (stages : List LooseStage) :
    ((∃ line pipeline, Pipeline.ofWords (splitWords line) = .ok pipeline ∧
        pipeline.map Stage.loose = stages) ↔
      stages ≠ [] ∧ ∀ stage ∈ stages, stage.Expressible) ∧
    (stages ≠ [] → (∀ stage ∈ stages, stage.Expressible) → ∀ spelling,
      ∃ pipeline, Pipeline.ofWords (splitWords (lineOf spelling stages)) = .ok pipeline ∧
        pipeline.map Stage.loose = stages) := by
  have written : stages ≠ [] → (∀ stage ∈ stages, stage.Expressible) → ∀ spelling,
      ∃ pipeline, Pipeline.ofWords (splitWords (lineOf spelling stages)) = .ok pipeline ∧
        pipeline.map Stage.loose = stages := by
    intro some expressible spelling
    obtain ⟨pipeline, rfl⟩ := exists_pipeline expressible
    exact ⟨pipeline, ofWords_lineOf (by simpa using some) expressible spelling, rfl⟩
  refine ⟨⟨?_, ?_⟩, written⟩
  · rintro ⟨line, pipeline, parsed, rfl⟩
    have some : splitWords line ≠ [] := by
      intro blank
      rw [blank] at parsed
      cases parsed
    rw [ofWords_eq_ofSegments some, ofSegments_eq_ok_iff] at parsed
    constructor
    · intro empty
      obtain rfl := List.map_eq_nil_iff.mp empty
      exact List.splitOn_ne_nil _ _ (List.forall₂_nil_right_iff.mp parsed)
    · intro stage member
      obtain ⟨tight, within, rfl⟩ := List.mem_map.mp member
      refine expressible_of_reads parsed ?_ tight within
      intro segment isSegment word isWord
      obtain ⟨inLine, notSeparator⟩ :=
        mem_of_mem_piece (splitWords line) segment isSegment word isWord
      exact ⟨splitWords_ne_empty line word inLine, notSeparator⟩
  · rintro ⟨some, expressible⟩
    obtain ⟨pipeline, parsed, same⟩ := written some expressible .short
    exact ⟨_, pipeline, parsed, same⟩

/-- Words of any content and a target like an operator come through. -/
theorem exists_line_iff_and_lineOf_quotes :
    let stages : List LooseStage :=
      [⟨"it's", ["a  b", "\\\"", "größe"], none, some ⟨.stderr, .append, ">"⟩⟩,
        ⟨"cat", [], some ⟨.stdout, .truncate, "2>"⟩, none⟩]
    lineOf .short stages = "'it'\\''s' 'a  b' '\\\"' 'größe' 2>> '>' | 'cat' > '2>'" ∧
      ∃ pipeline, Pipeline.ofWords (splitWords (lineOf .short stages)) = .ok pipeline ∧
        pipeline.map Stage.loose = stages := by
  intro stages
  have expressible : ∀ stage ∈ stages, stage.Expressible := by
    intro stage member
    rcases List.mem_pair.mp member with rfl | rfl
    · exact ⟨by decide, by decide, by simp, by simp⟩
    · exact ⟨by decide, by decide, by simp, by simp⟩
  obtain ⟨-, written⟩ := exists_line_iff_and_lineOf stages
  exact ⟨by decide +kernel, written (by decide) expressible .short⟩

end CommandShell
