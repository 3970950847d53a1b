/-
This file decides what a Tab does. A request is the text before the cursor and
the names that may stand there. A lone name replaces the text, several names
replace it by what they have in common if that is longer, and otherwise the
first request rings the bell and the next one for the same text lists the
names. The only memory is the text that rang the bell last.

Positions in a text are counted in bytes, and what is before one has to be a text
itself.
-/

import CommandShell.Bytes

namespace CommandShell

/-- The text of a line before a byte position. -/
def textBefore (line : String) (position : Nat) : String :=
  (decode? ((utf8 line).take position)).getD line

/-- Characters, each with the position of its first byte. -/
def positioned (position : Nat) : List Char → List (Nat × Char)
  | [] => []
  | first :: rest => (position, first) :: positioned (position + first.utf8Size) rest

/-- The position behind the characters that two texts have in common from the start, as the bytes of
the first one are counted. -/
def sharedEnd (first other : String) : Nat :=
  let shared := ((positioned 0 first.toList).zip other.toList).takeWhile fun pair =>
    pair.1.2 == pair.2
  match shared.getLast? with
  | none => 0
  | some ((position, character), _) => position + character.utf8Size

/-- The position behind what all texts have in common with the first one. -/
def commonEnd (first : String) (rest : List String) : Nat :=
  rest.foldl (fun position other => min position (sharedEnd first other)) first.utf8ByteSize

/-- The longest text that every candidate starts with. Without candidates it is empty. -/
def longestCommonStart : List String → String
  | [] => ""
  | first :: rest => textBefore first (commonEnd first rest)

/-- The memory of the request before. -/
structure CompletionState where
  lastText : Option String
  repeats : Nat
  deriving DecidableEq, Repr

/-- The memory when no request is to be remembered. -/
def CompletionState.initial : CompletionState := ⟨none, 0⟩

/-- What a request does. -/
inductive Completion
  /-- Ring the bell and leave the text alone. -/
  | bell
  /-- Put this in place of the whole text. -/
  | replace (text : String)
  /-- Show every candidate and leave the text alone. -/
  | list (candidates : List String)
  deriving DecidableEq, Repr

/-- Answer a request for `text`, given the names that may stand there. The memory counts only if
it is of the same text. -/
def complete (text : String) (candidates : List String) (state : CompletionState) :
    Completion × CompletionState :=
  let repeats := if state.lastText = some text then state.repeats else 0
  match candidates with
  | [] => (.bell, .initial)
  | [only] => (.replace (only ++ " "), .initial)
  | _ =>
    let common := longestCommonStart candidates
    if text.utf8ByteSize < common.utf8ByteSize then (.replace common, .initial)
    else if repeats = 0 then (.bell, ⟨some text, 1⟩)
    else (.list candidates, .initial)

end CommandShell
