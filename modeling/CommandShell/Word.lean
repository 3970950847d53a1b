/-
This file reads a typed line as a list of words. Words are separated by blanks.
A backslash outside quotes makes the next character an ordinary one, single
quotes make everything between them ordinary, and double quotes do so for all
but the backslash, which there keeps its meaning in front of four characters
only. Quoted and unquoted parts that touch form one word. Every line can be
read: a quote left open runs to the end of the line, and a backslash at the very
end stands for nothing outside quotes and for itself inside double quotes. A
word that came out empty is dropped, whatever quotes it had.

The reading is one recursion on the characters. It returns what the remaining
characters add to the word being read and the words that follow that one, so no
text is ever taken back.
-/

namespace CommandShell

/-- How the characters at a point of the line are to be taken. -/
inductive Quoting
  | bare
  | single
  | double
  deriving DecidableEq, Repr

/-- What the rest of a line adds to the word being read, and the words after that one. -/
structure Reading where
  current : List Char
  later : List (List Char)
  deriving DecidableEq, Repr

namespace Reading

/-- Nothing more to read. -/
def done : Reading := ⟨[], []⟩

/-- One more character in front of the current word. -/
def push (character : Char) (reading : Reading) : Reading :=
  { reading with current := character :: reading.current }

/-- The words of a reading that starts at the beginning of a word. An empty one is dropped. -/
def words (reading : Reading) : List (List Char) :=
  if reading.current = [] then reading.later else reading.current :: reading.later

/-- The current word ends here. -/
def close (reading : Reading) : Reading := ⟨[], reading.words⟩

end Reading

/-- A character that separates words outside quotes. -/
def isBlank (character : Char) : Bool :=
  character == ' ' || character == '\t'

/-- A character before which a backslash keeps its meaning inside double quotes. -/
def isEscapable (character : Char) : Bool :=
  character == '\\' || character == '$' || character == '"' || character == '\n'

/-- Read the characters of a line from a point with the given quoting. -/
def scan : Quoting → List Char → Reading
  | _, [] => .done
  | .bare, character :: rest =>
    if isBlank character then (scan .bare rest).close
    else if character = '\'' then scan .single rest
    else if character = '"' then scan .double rest
    else if character = '\\' then
      match rest with
      | [] => .done
      | escaped :: rest => (scan .bare rest).push escaped
    else (scan .bare rest).push character
  | .single, character :: rest =>
    if character = '\'' then scan .bare rest
    else (scan .single rest).push character
  | .double, character :: rest =>
    if character = '"' then scan .bare rest
    else if character = '\\' then
      match rest with
      | [] => Reading.done.push '\\'
      | escaped :: rest =>
        if isEscapable escaped then (scan .double rest).push escaped
        else (scan .double (escaped :: rest)).push '\\'
    else (scan .double rest).push character

/-- The words of a line. -/
def splitWords (line : String) : List String :=
  (scan .bare line.toList).words.map String.ofList

end CommandShell
