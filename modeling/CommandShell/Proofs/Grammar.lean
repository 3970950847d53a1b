/-
This file says which lists of words are pipelines, and what is wrong with the
others. Between two separators stand items: plain words, and operators each with
the word behind it, whatever that is. The plain words are a program and its
arguments, and of the items for one stream the last one counts. A segment can be
faulty in three ways, and of several faulty segments only the leftmost matters.

The content here is that this grammar is read exactly. The words of a segment are
items in one way, but for an operator that may be left over at the end, and the
reading of a segment follows its items. The reading of a pipeline then follows its
segments up to the first faulty one, so nothing behind the separator that ends
that segment is looked at.
-/

import CommandShell.Pipeline
import Mathlib.Data.List.Forall2

namespace CommandShell

/-! ### Items -/

/-- The redirection operators with the stream and the mode that they stand for. -/
def operatorTable : List (String × Stream × WriteMode) :=
  [(">", .stdout, .truncate), ("1>", .stdout, .truncate), (">>", .stdout, .append),
    ("1>>", .stdout, .append), ("2>", .stderr, .truncate), ("2>>", .stderr, .append)]

/-- A part of a segment. -/
inductive Item
  /-- A word that is no operator. -/
  | plain (word : String)
  /-- An operator and the word behind it. -/
  | redirect (operator : String) (stream : Stream) (mode : WriteMode) (target : String)
  deriving DecidableEq, Repr

namespace Item

/-- The words of the segment. -/
def source : Item → List String
  | .plain word => [word]
  | .redirect operator _ _ target => [operator, target]

/-- Whether the words are read as this item. -/
def WellFormed : Item → Prop
  | .plain word => word ∉ operatorTable.map (·.1)
  | .redirect operator stream mode _ => (operator, stream, mode) ∈ operatorTable

/-- The word of a plain item. -/
def word? : Item → Option String
  | .plain word => some word
  | .redirect .. => none

/-- The redirection of an item for this stream. -/
def redirect? (stream : Stream) : Item → Option Redirect
  | .plain _ => none
  | .redirect _ other mode target => if other = stream then some ⟨mode, target⟩ else none

end Item

/-- The segment consists of these items. -/
structure Consists (segment : List String) (items : List Item) : Prop where
  source_eq : items.flatMap Item.source = segment
  wellFormed : ∀ item ∈ items, item.WellFormed

/-- The stage that items make: the plain words are its program and arguments, and for each stream
the last item counts. -/
structure Stage.IsMadeOf (stage : Stage) (items : List Item) : Prop where
  words : items.filterMap Item.word? = stage.program :: stage.args
  stdout : (items.filterMap (Item.redirect? .stdout)).getLast? = stage.stdout
  stderr : (items.filterMap (Item.redirect? .stderr)).getLast? = stage.stderr

/-- The segment is read as this stage. -/
def Reads (segment : List String) (stage : Stage) : Prop :=
  ∃ items, Consists segment items ∧ stage.IsMadeOf items

/-- What is wrong with a segment. -/
inductive Faulty : List String → SyntaxError → Prop
  | empty : Faulty [] .emptySegment
  /-- The reading ends on an operator, whatever else the segment says. -/
  | missingTarget {before : List String} {items : List Item} {operator : String} :
      Consists before items → operator ∈ operatorTable.map (·.1) →
      Faulty (before ++ [operator]) (.missingTarget operator)
  /-- There are items, but no plain word among them. -/
  | missingCommand {segment : List String} {items : List Item} :
      segment ≠ [] → Consists segment items → items.filterMap Item.word? = [] →
      Faulty segment .missingCommand

/-- What is wrong with the leftmost faulty segment. -/
def LeftmostFault (segments : List (List String)) (error : SyntaxError) : Prop :=
  ∃ before segment after, segments = before ++ segment :: after ∧
    (∀ earlier ∈ before, ∃ stage, Reads earlier stage) ∧ Faulty segment error

/-! ### Reading items -/

/-- The operators are those of the table. -/
theorem operator?_eq_some_iff {word : String} {stream : Stream} {mode : WriteMode} :
    operator? word = some (stream, mode) ↔ (word, stream, mode) ∈ operatorTable := by
  constructor
  · intro found
    unfold operator? at found
    split at found
    · next spelling =>
      cases found
      rcases spelling with rfl | rfl <;> simp [operatorTable]
    · split at found
      · next spelling =>
        cases found
        rcases spelling with rfl | rfl <;> simp [operatorTable]
      · split at found
        · next spelling =>
          cases found
          simp [operatorTable, spelling]
        · split at found
          · next spelling =>
            cases found
            simp [operatorTable, spelling]
          · cases found
  · intro member
    simp only [operatorTable, List.mem_cons, List.not_mem_nil, or_false, Prod.mk.injEq] at member
    rcases member with ⟨rfl, rfl, rfl⟩ | ⟨rfl, rfl, rfl⟩ | ⟨rfl, rfl, rfl⟩ | ⟨rfl, rfl, rfl⟩ |
      ⟨rfl, rfl, rfl⟩ | ⟨rfl, rfl, rfl⟩ <;> decide

theorem operator?_eq_none_iff {word : String} :
    operator? word = none ↔ word ∉ operatorTable.map (·.1) := by
  constructor
  · intro nothing member
    obtain ⟨⟨operator, stream, mode⟩, entry, rfl⟩ := List.mem_map.mp member
    rw [operator?_eq_some_iff.mpr entry] at nothing
    cases nothing
  · intro ordinary
    cases found : operator? word with
    | none => rfl
    | some meaning =>
      exact absurd (List.mem_map_of_mem (operator?_eq_some_iff.mp found)) ordinary

/-- An item in front of a draft. -/
def Item.before (item : Item) (draft : Draft) : Draft :=
  match item with
  | .plain word => draft.addWord word
  | .redirect _ stream mode target => draft.addRedirect stream ⟨mode, target⟩

theorem ofWords_source {item : Item} (wellFormed : item.WellFormed) (rest : List String) :
    Draft.ofWords (item.source ++ rest) = (Draft.ofWords rest).map item.before := by
  cases item with
  | plain word =>
    rw [Item.source, List.singleton_append, Draft.ofWords, operator?_eq_none_iff.mpr wellFormed]
    rfl
  | redirect operator stream mode target =>
    rw [Item.source, List.cons_append, List.singleton_append, Draft.ofWords,
      operator?_eq_some_iff.mpr wellFormed]
    rfl

/-- Items that stand in front are read one after the other. -/
theorem Consists.ofWords_append {segment : List String} {items : List Item}
    (consists : Consists segment items) (rest : List String) :
    Draft.ofWords (segment ++ rest) =
      (Draft.ofWords rest).map fun draft => items.foldr Item.before draft := by
  obtain ⟨rfl, wellFormed⟩ := consists
  induction items with
  | nil =>
    rw [List.flatMap_nil, List.nil_append]
    cases Draft.ofWords rest <;> rfl
  | cons item items inductionHypothesis =>
    rw [List.flatMap_cons, List.append_assoc, ofWords_source (wellFormed item List.mem_cons_self),
      inductionHypothesis fun other member => wellFormed other (List.mem_cons_of_mem _ member)]
    cases Draft.ofWords rest <;> rfl

/-- The last of several, where the first one counts only if there is no other. -/
theorem getLast?_cons_eq_orElse {α : Type} (first : α) (rest : List α) :
    (first :: rest).getLast? = (rest.getLast? <|> some first) := by
  rw [List.getLast?_cons]
  cases rest.getLast? <;> rfl

/-- What items say: their plain words, and the last redirection of each stream. -/
theorem foldr_before_empty (items : List Item) :
    items.foldr Item.before .empty =
      ⟨items.filterMap Item.word?, (items.filterMap (Item.redirect? .stdout)).getLast?,
        (items.filterMap (Item.redirect? .stderr)).getLast?⟩ := by
  induction items with
  | nil => rfl
  | cons item items inductionHypothesis =>
    rw [List.foldr_cons, inductionHypothesis]
    cases item with
    | plain word => rfl
    | redirect operator stream mode target =>
      cases stream <;>
        simp [Item.before, Draft.addRedirect, Item.word?, Item.redirect?, List.filterMap_cons,
          getLast?_cons_eq_orElse]

theorem Consists.cons {segment : List String} {items : List Item} {item : Item}
    (wellFormed : item.WellFormed) (consists : Consists segment items) :
    Consists (item.source ++ segment) (item :: items) := by
  refine ⟨by rw [List.flatMap_cons, consists.source_eq], ?_⟩
  rintro other (_ | ⟨_, member⟩)
  · exact wellFormed
  · exact consists.wellFormed other member

/-- The words of a segment are items, but for an operator that may be left over. -/
theorem exists_consists (segment : List String) :
    ∃ before items, Consists before items ∧
      (segment = before ∨
        ∃ operator ∈ operatorTable.map (·.1), segment = before ++ [operator]) := by
  -- One more item in front of the items of the rest.
  have step {item : Item} {rest : List String} (wellFormed : item.WellFormed)
      (others : ∃ before items, Consists before items ∧ (rest = before ∨
        ∃ operator ∈ operatorTable.map (·.1), rest = before ++ [operator])) :
      ∃ before items, Consists before items ∧ (item.source ++ rest = before ∨
        ∃ operator ∈ operatorTable.map (·.1), item.source ++ rest = before ++ [operator]) := by
    obtain ⟨before, items, consists, ends⟩ := others
    refine ⟨_, _, consists.cons wellFormed, ?_⟩
    rcases ends with rfl | ⟨operator, member, rfl⟩
    · exact Or.inl rfl
    · exact Or.inr ⟨operator, member, (List.append_assoc ..).symm⟩
  induction segment using Draft.ofWords.induct with
  | case1 => exact ⟨[], [], ⟨rfl, by simp⟩, Or.inl rfl⟩
  | case2 word rest ordinary inductionHypothesis =>
    have wellFormed : (Item.plain word).WellFormed := operator?_eq_none_iff.mp ordinary
    exact step wellFormed inductionHypothesis
  | case3 operator stream mode found =>
    refine ⟨[], [], ⟨rfl, by simp⟩, Or.inr ⟨operator, ?_, rfl⟩⟩
    exact List.mem_map_of_mem (f := (·.1)) (operator?_eq_some_iff.mp found)
  | case4 operator stream mode found target rest inductionHypothesis =>
    have wellFormed : (Item.redirect operator stream mode target).WellFormed :=
      operator?_eq_some_iff.mp found
    exact step wellFormed inductionHypothesis

/-! ### Reading a segment -/

/-- Items are read as what they say. -/
theorem Consists.ofWords_eq {segment : List String} {items : List Item}
    (consists : Consists segment items) :
    Draft.ofWords segment = .ok (items.foldr Item.before .empty) := by
  have read := consists.ofWords_append []
  rwa [List.append_nil] at read

/-- An operator that is left over has no target. -/
theorem Consists.ofWords_operator {before : List String} {items : List Item} {operator : String}
    (consists : Consists before items) (member : operator ∈ operatorTable.map (·.1)) :
    Draft.ofWords (before ++ [operator]) = .error (.missingTarget operator) := by
  obtain ⟨⟨_, stream, mode⟩, entry, rfl⟩ := List.mem_map.mp member
  rw [consists.ofWords_append, Draft.ofWords, operator?_eq_some_iff.mpr entry]
  rfl

theorem Reads.ofSegment_eq {segment : List String} {stage : Stage} (reads : Reads segment stage) :
    Stage.ofSegment segment = .ok stage := by
  obtain ⟨items, consists, made⟩ := reads
  have some : segment ≠ [] := by
    rintro rfl
    cases items with
    | nil => cases made.words
    | cons item others =>
      have empty := List.flatMap_eq_nil_iff.mp consists.source_eq item List.mem_cons_self
      exact absurd empty (by cases item <;> simp [Item.source])
  rw [Stage.ofSegment, if_neg some, consists.ofWords_eq, foldr_before_empty]
  simp only [Except.bind, Draft.toStage, made.words, made.stdout, made.stderr]

theorem Faulty.ofSegment_eq {segment : List String} {error : SyntaxError}
    (faulty : Faulty segment error) : Stage.ofSegment segment = .error error := by
  cases faulty with
  | empty => rfl
  | missingTarget consists member =>
    rw [Stage.ofSegment, if_neg (by simp), consists.ofWords_operator member]
    rfl
  | missingCommand some consists noWord =>
    rw [Stage.ofSegment, if_neg some, consists.ofWords_eq, foldr_before_empty]
    simp only [Except.bind, Draft.toStage, noWord]

/-- A segment is read as a stage, or it is faulty. -/
theorem reads_or_faulty (segment : List String) :
    (∃ stage, Reads segment stage) ∨ ∃ error, Faulty segment error := by
  obtain ⟨before, items, consists, rfl | ⟨operator, member, rfl⟩⟩ := exists_consists segment
  · cases words : items.filterMap Item.word? with
    | cons program args => exact Or.inl ⟨⟨program, args, _, _⟩, items, consists, words, rfl, rfl⟩
    | nil =>
      by_cases empty : segment = []
      · exact Or.inr ⟨.emptySegment, empty ▸ Faulty.empty⟩
      · exact Or.inr ⟨.missingCommand, .missingCommand empty consists words⟩
  · exact Or.inr ⟨_, .missingTarget consists member⟩

theorem ofSegment_eq_ok_iff {segment : List String} {stage : Stage} :
    Stage.ofSegment segment = .ok stage ↔ Reads segment stage := by
  refine ⟨fun read => ?_, Reads.ofSegment_eq⟩
  rcases reads_or_faulty segment with ⟨other, reads⟩ | ⟨error, faulty⟩
  · rw [reads.ofSegment_eq] at read
    cases read
    exact reads
  · rw [faulty.ofSegment_eq] at read
    cases read

theorem ofSegment_eq_error_iff {segment : List String} {error : SyntaxError} :
    Stage.ofSegment segment = .error error ↔ Faulty segment error := by
  refine ⟨fun refused => ?_, Faulty.ofSegment_eq⟩
  rcases reads_or_faulty segment with ⟨stage, reads⟩ | ⟨other, faulty⟩
  · rw [reads.ofSegment_eq] at refused
    cases refused
  · rw [faulty.ofSegment_eq] at refused
    cases refused
    exact faulty

/-! ### Reading a pipeline -/

/-- The segments are the lists of words between separators. -/
theorem segments_eq_splitOn (words : List String) :
    segments words = words.splitOn separator := by
  induction words with
  | nil => rfl
  | cons word rest inductionHypothesis =>
    rw [segments, List.splitOn_cons_eq_if_modifyHead, ← inductionHypothesis]
    by_cases same : word = separator
    · simp [same]
    · have some : segments rest ≠ [] := by
        rw [inductionHypothesis]
        exact List.splitOn_ne_nil _ _
      cases found : segments rest with
      | nil => exact absurd found some
      | cons first others => simp [same]

/-- Segments are a pipeline if each of them is a stage of it. -/
theorem ofSegments_eq_ok_iff {segments : List (List String)} {pipeline : Pipeline} :
    Pipeline.ofSegments segments = .ok pipeline ↔ List.Forall₂ Reads segments pipeline := by
  induction segments generalizing pipeline with
  | nil => cases pipeline <;> simp [Pipeline.ofSegments]
  | cons segment rest inductionHypothesis =>
    rw [Pipeline.ofSegments]
    constructor
    · intro read
      cases first : Stage.ofSegment segment with
      | error error =>
        rw [first] at read
        cases read
      | ok stage =>
        cases others : Pipeline.ofSegments rest with
        | error error =>
          rw [first, others] at read
          cases read
        | ok stages =>
          rw [first, others] at read
          cases read
          exact .cons (ofSegment_eq_ok_iff.mp first) (inductionHypothesis.mp others)
    · rintro (_ | ⟨reads, others⟩)
      rw [ofSegment_eq_ok_iff.mpr reads, inductionHypothesis.mpr others]
      rfl

/-- Otherwise the leftmost faulty segment says what is wrong. -/
theorem ofSegments_eq_error_iff {segments : List (List String)} {error : SyntaxError} :
    Pipeline.ofSegments segments = .error error ↔ LeftmostFault segments error := by
  induction segments with
  | nil => simp [Pipeline.ofSegments, LeftmostFault]
  | cons segment rest inductionHypothesis =>
    rw [Pipeline.ofSegments]
    constructor
    · intro refused
      cases first : Stage.ofSegment segment with
      | error fault =>
        rw [first] at refused
        cases refused
        exact ⟨[], segment, rest, rfl, by simp, ofSegment_eq_error_iff.mp first⟩
      | ok stage =>
        rw [first] at refused
        cases others : Pipeline.ofSegments rest with
        | ok stages =>
          rw [others] at refused
          cases refused
        | error fault =>
          rw [others] at refused
          cases refused
          obtain ⟨before, faulty, after, rfl, earlier, fault⟩ := inductionHypothesis.mp others
          refine ⟨segment :: before, faulty, after, rfl, ?_, fault⟩
          rintro other (_ | ⟨_, member⟩)
          · exact ⟨stage, ofSegment_eq_ok_iff.mp first⟩
          · exact earlier other member
    · rintro ⟨before, faulty, after, same, earlier, fault⟩
      cases before with
      | nil =>
        obtain ⟨rfl, rfl⟩ := List.cons_eq_cons.mp same
        rw [ofSegment_eq_error_iff.mpr fault]
      | cons first before =>
        obtain ⟨rfl, rfl⟩ := List.cons_eq_cons.mp same
        obtain ⟨stage, reads⟩ := earlier segment List.mem_cons_self
        rw [ofSegment_eq_ok_iff.mpr reads, inductionHypothesis.mpr ⟨before, faulty, after, rfl,
          fun other member => earlier other (List.mem_cons_of_mem _ member), fault⟩]
        rfl

/-- Segments behind the leftmost faulty one do not count. -/
theorem LeftmostFault.append {segments : List (List String)} {error : SyntaxError}
    (fault : LeftmostFault segments error) (others : List (List String)) :
    LeftmostFault (segments ++ others) error := by
  obtain ⟨before, faulty, after, rfl, earlier, fault⟩ := fault
  exact ⟨before, faulty, after ++ others, by simp, earlier, fault⟩

theorem ofWords_eq_ofSegments {words : List String} (some : words ≠ []) :
    Pipeline.ofWords words = Pipeline.ofSegments (words.splitOn separator) := by
  rw [Pipeline.ofWords, if_neg some, segments_eq_splitOn]

theorem ne_nil_of_ofWords_eq_ok {words : List String} {pipeline : Pipeline}
    (read : Pipeline.ofWords words = .ok pipeline) : words ≠ [] := by
  rintro rfl
  cases read

theorem reads_of_ofWords_eq_ok {words : List String} {pipeline : Pipeline}
    (read : Pipeline.ofWords words = .ok pipeline) :
    List.Forall₂ Reads (words.splitOn separator) pipeline := by
  rw [ofWords_eq_ofSegments (ne_nil_of_ofWords_eq_ok read)] at read
  exact ofSegments_eq_ok_iff.mp read

/-- Words are read by exactly this grammar, and the leftmost fault is reported. No words are a fault
of their own; otherwise the segments between separators are the stages of the pipeline, or the
leftmost faulty one says what is wrong, whatever is behind the separator that ends it. -/
theorem ofWords_grammar (words : List String) :
    (Pipeline.ofWords words = .error .emptyInput ↔ words = []) ∧
      (words ≠ [] → ∀ pipeline, Pipeline.ofWords words = .ok pipeline ↔
        List.Forall₂ Reads (words.splitOn separator) pipeline) ∧
      (words ≠ [] → ∀ error, Pipeline.ofWords words = .error error ↔
        LeftmostFault (words.splitOn separator) error) ∧
      ∀ before rest error, LeftmostFault (before.splitOn separator) error →
        Pipeline.ofWords (before ++ separator :: rest) = .error error := by
  refine ⟨⟨fun refused => ?_, fun nothing => by rw [nothing]; rfl⟩, fun some pipeline => ?_,
    fun some error => ?_, fun before rest error fault => ?_⟩
  · by_contra some
    rw [ofWords_eq_ofSegments some, ofSegments_eq_error_iff] at refused
    obtain ⟨_, _, _, _, _, fault⟩ := refused
    cases fault
  · rw [ofWords_eq_ofSegments some, ofSegments_eq_ok_iff]
  · rw [ofWords_eq_ofSegments some, ofSegments_eq_error_iff]
  · rw [ofWords_eq_ofSegments (by simp), List.splitOn_append_cons_self, ofSegments_eq_error_iff]
    exact fault.append _

end CommandShell
