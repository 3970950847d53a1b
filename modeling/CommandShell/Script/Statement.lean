/-
This file holds scripts of the system's shell as they are understood. A word is
made of parts: literal text, and the values of parameters, of the output of
statements and of sums, each of them quoted or not. A statement is a command with
its words, assignments and redirections, or several statements put together.

A script is read byte by byte, and a byte is held as the character with its code.
-/

import CommandShell.Bytes

namespace CommandShell

namespace Script

/-- A text in which every character has the code of a byte. -/
abbrev Text := List Char

/-- The text of bytes. -/
def textOf (bytes : Bytes) : Text :=
  bytes.map fun byte => Char.ofNat byte.toNat

/-- The bytes of a text. -/
def bytesOf (text : Text) : Bytes :=
  text.map fun letter => UInt8.ofNat letter.toNat

/-- What is made of the value of a parameter. -/
inductive Modifier
  /-- The value itself. -/
  | plain
  /-- The word, if there is no value. -/
  | orElse
  /-- The word, which becomes the value, if there is none. -/
  | orSet
  /-- The word is an error, if there is no value. -/
  | orFail
  /-- The word, if there is a value. -/
  | ifSet
  /-- The value without what the word matches at its end. -/
  | cutEnd (longest : Bool)
  /-- The value without what the word matches at its start. -/
  | cutStart (longest : Bool)
  /-- The length of the value. -/
  | length
  /-- Nothing that is known. -/
  | unknown
  deriving DecidableEq, Repr

/-- What a redirection does with its descriptor. -/
inductive Direction
  | read
  | write
  /-- Writes even to files that are protected. -/
  | overwrite
  | append
  | readWrite
  /-- The descriptor becomes a copy of another one, or is closed. -/
  | copy
  /-- The word itself is read. -/
  | text
  deriving DecidableEq, Repr

mutual

/-- A part of a word. -/
inductive Part
  | literal (quoted : Bool) (text : Text)
  /-- A parameter. If `orEmpty` is set, the empty value counts as none. -/
  | parameter (quoted : Bool) (name : Text) (modifier : Modifier) (orEmpty : Bool)
      (word : List Part)
  /-- The output of statements. -/
  | output (quoted : Bool) (body : Statement)
  /-- The value of a sum. -/
  | sum (quoted : Bool) (expression : List Part)

/-- A redirection. -/
inductive Redirection
  | mk (descriptor : Nat) (direction : Direction) (target : List Part)

/-- A statement. Its line is where it starts. -/
inductive Statement
  | simple (line : Nat) (assignments : List (Text × List Part)) (words : List (List Part))
      (redirections : List Redirection)
  | pipeline (line : Nat) (stages : List Statement)
  | negation (body : Statement)
  /-- The second one runs if the first one succeeded. -/
  | both (first second : Statement)
  /-- The second one runs if the first one failed. -/
  | either (first second : Statement)
  | sequence (statements : List Statement)
  | background (body : Statement)
  /-- Runs on a copy of the shell. -/
  | apart (line : Nat) (body : Statement)
  | redirected (line : Nat) (body : Statement) (redirections : List Redirection)
  | choice (condition body otherwise : Statement)
  /-- Runs as long as the condition holds, or with `untilTrue` as long as it does not. -/
  | loop (untilTrue : Bool) (condition body : Statement)
  /-- Runs once for each value, which are the shell's own parameters if there are no words. -/
  | each (line : Nat) (name : Text) (words : Option (List (List Part)))
      (body : Statement)
  | cases (line : Nat) (word : List Part) (branches : List (List (List Part) × Statement))
  | function (name : Text) (body : Statement)

end

/-- The statement that does nothing. -/
def Statement.empty : Statement := .sequence []

/-- What a statement runs in a part of its own if it does nothing else, and the line of that. -/
def Statement.part? : Statement → Option (Nat × Statement)
  | .apart line body => some (line, body)
  | .redirected _ (.apart line body) _ => some (line, body)
  | .sequence [statement] => statement.part?
  | _ => none

/-- A statement under redirections. A part of its own has one list of them only, and those around
its block stand in for those inside. -/
def Statement.under (statement : Statement) (line : Nat) (redirections : List Redirection) :
    Statement :=
  match redirections, statement.part? with
  | [], _ => statement
  | redirections, some (line, body) => .redirected line (.apart line body) redirections
  | redirections, none => .redirected line statement redirections

/-- Whether a character can start a name. -/
def startsName (character : Char) : Bool :=
  character.isAlpha || character == '_'

/-- Whether a character can stand in a name. -/
def continuesName (character : Char) : Bool :=
  startsName character || character.isDigit

/-- Whether a text is the name of a variable. -/
def isVariableName : Text → Bool
  | [] => false
  | first :: rest => startsName first && rest.all continuesName

/-- Whether a character is a parameter of its own. -/
def isSpecialParameter (character : Char) : Bool :=
  ['@', '*', '#', '?', '-', '$', '!', '0'].contains character

end Script

end CommandShell
