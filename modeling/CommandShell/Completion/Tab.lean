/-
This file answers a Tab with the command names of a tree. The text before the
cursor is completed as a command name. Whatever is decided, one replacement for
that text is given back; the bell and the list are printed besides.
-/

import CommandShell.Completion
import CommandShell.Search

namespace CommandShell

/-- What answers a Tab: a search list and the memory of the request before. -/
structure Completer where
  searchList : Option String
  state : CompletionState
  deriving DecidableEq, Repr

/-- A completer that remembers nothing. -/
def Completer.start (searchList : Option String) : Completer := ⟨searchList, .initial⟩

/-- What a Tab prints and what it puts in place of the text before the cursor. -/
structure TabAnswer where
  printed : Bytes
  replacement : String
  deriving DecidableEq, Repr

/-- The bell. -/
def bellByte : Bytes := [7]

/-- The candidates on a line of their own. The terminal needs the carriage returns. -/
def showList (names : List String) : Bytes :=
  utf8 ("\r\n" ++ String.intercalate "  " names ++ "\r\n")

/-- What is printed and put in place for a completion of `text`. -/
def Completion.answer (text : String) : Completion → TabAnswer
  | .bell => ⟨bellByte, text⟩
  | .replace replacement => ⟨[], replacement⟩
  | .list names => ⟨showList names, text⟩

/-- Answer a Tab after `text`. -/
def Completer.tab (completer : Completer) (world : World) (text : String) :
    TabAnswer × Completer :=
  let (completion, state) :=
    complete text (world.candidates text completer.searchList) completer.state
  (completion.answer text, { completer with state := state })

end CommandShell
