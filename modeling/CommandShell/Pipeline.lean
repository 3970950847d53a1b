/-
This file groups words into a pipeline. The word `|` separates stages. In a
stage a redirection operator takes the next word, whatever it is, as the name of
the file, and all other words are the program and its arguments. Of several
redirections of one stream the last one counts. The stages are checked from left
to right, so the first faulty one is reported and nothing after it is looked at.
-/

import CommandShell.Program

namespace CommandShell

/-- Whether opening a file empties it. -/
inductive WriteMode
  | truncate
  | append
  deriving DecidableEq, Repr

/-- A file that takes the place of one of a stage's streams. -/
structure Redirect where
  mode : WriteMode
  target : String
  deriving DecidableEq, Repr

/-- One command of a pipeline. -/
structure Stage where
  program : String
  args : List String
  stdout : Option Redirect
  stderr : Option Redirect
  deriving DecidableEq, Repr

/-- The stages of a line, in textual order. -/
abbrev Pipeline := List Stage

/-- Why words do not form a pipeline. -/
inductive SyntaxError
  /-- There is no word at all. -/
  | emptyInput
  /-- Nothing stands before, after or between two separators. -/
  | emptySegment
  /-- The operator is the last word of its stage. -/
  | missingTarget (operator : String)
  /-- The stage consists of redirections only. -/
  | missingCommand
  deriving DecidableEq, Repr

/-- The wording of a syntax error. -/
def SyntaxError.message : SyntaxError → String
  | .emptyInput => "empty command line"
  | .emptySegment => "syntax error near unexpected token `|'"
  | .missingTarget operator => "syntax error: missing file name after `" ++ operator ++ "'"
  | .missingCommand => "syntax error: missing command before redirection"

/-- The stream and the mode that a redirection operator stands for. -/
def operator? (word : String) : Option (Stream × WriteMode) :=
  if word = ">" ∨ word = "1>" then some (.stdout, .truncate)
  else if word = ">>" ∨ word = "1>>" then some (.stdout, .append)
  else if word = "2>" then some (.stderr, .truncate)
  else if word = "2>>" then some (.stderr, .append)
  else none

/-- The word that separates stages. -/
def separator : String := "|"

/-- The words between separators, which are one more in number than the separators. -/
def segments : List String → List (List String)
  | [] => [[]]
  | word :: rest =>
    if word = separator then [] :: segments rest
    else
      match segments rest with
      | [] => [[word]]
      | first :: others => (word :: first) :: others

/-- What the words of a stage say, before it is known that one of them names a program. -/
structure Draft where
  words : List String
  stdout : Option Redirect
  stderr : Option Redirect
  deriving DecidableEq, Repr

namespace Draft

/-- A stage of which nothing is read. -/
def empty : Draft := ⟨[], none, none⟩

/-- A plain word in front. -/
def addWord (word : String) (draft : Draft) : Draft :=
  { draft with words := word :: draft.words }

/-- A redirection in front, which counts only if no later one is for the same stream. -/
def addRedirect (stream : Stream) (redirect : Redirect) (draft : Draft) : Draft :=
  match stream with
  | .stdout => { draft with stdout := draft.stdout <|> some redirect }
  | .stderr => { draft with stderr := draft.stderr <|> some redirect }

/-- Read the words of a stage from left to right. -/
def ofWords : List String → Except SyntaxError Draft
  | [] => .ok empty
  | word :: rest =>
    match operator? word with
    | none => (ofWords rest).map (addWord word)
    | some (stream, mode) =>
      match rest with
      | [] => .error (.missingTarget word)
      | target :: rest => (ofWords rest).map (addRedirect stream ⟨mode, target⟩)

/-- The stage, if some word names its program. -/
def toStage (draft : Draft) : Except SyntaxError Stage :=
  match draft.words with
  | [] => .error .missingCommand
  | program :: args => .ok ⟨program, args, draft.stdout, draft.stderr⟩

end Draft

/-- The stage that the words between two separators stand for. -/
def Stage.ofSegment (segment : List String) : Except SyntaxError Stage :=
  if segment = [] then .error .emptySegment
  else (Draft.ofWords segment).bind Draft.toStage

/-- The stages of the segments, or the error of the first faulty one. -/
def Pipeline.ofSegments : List (List String) → Except SyntaxError Pipeline
  | [] => .ok []
  | segment :: rest =>
    match Stage.ofSegment segment with
    | .error error => .error error
    | .ok stage => (Pipeline.ofSegments rest).map (stage :: ·)

/-- The pipeline that a list of words stands for. -/
def Pipeline.ofWords (words : List String) : Except SyntaxError Pipeline :=
  if words = [] then .error .emptyInput
  else Pipeline.ofSegments (segments words)

end CommandShell
