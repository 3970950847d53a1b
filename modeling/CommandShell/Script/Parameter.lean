/-
This file says what parameters stand for. All of them together are one text, or
words of their own where many words can stand. What is cut off by a pattern is then
looked for in one of the words only, and the words after it are lost.
-/

import CommandShell.Script.Arithmetic
import CommandShell.Script.Field
import CommandShell.Script.Shell

namespace CommandShell

namespace Script

/-! ### Values -/

/-- The value of a parameter. -/
inductive Value
  | single (text : Text)
  /-- All parameters as words of their own. -/
  | list (words : List Text)
  deriving DecidableEq, Repr

namespace Value

/-- The number of characters. Between two words there is one more. -/
def length : Value → Nat
  | .single text => text.length
  | .list words => (List.intercalate [' '] words).length

/-- The end of a value, which is one of words in quotes only if there are any. -/
def edge (quoted : Bool) (value : Option Value) : List Bit :=
  if quoted then if value matches some (.list (_ :: _)) then [.edge true] else []
  else [.edge false]

/-- The pieces of a value. -/
def bits (quoted : Bool) (value : Value) : List Bit :=
  (match value with
    | .single text => letterBits quoted text
    | .list words => List.intercalate [.join quoted] (words.map (letterBits quoted))) ++
      edge quoted (some value)

/-- The pieces of a value, if there is one. -/
def bits? (quoted : Bool) (value : Option Value) : List Bit :=
  (value.map (·.bits quoted)).getD []

/-- The value without what the pattern matches at its start. Among words the first one is looked at.
If the pattern matches all of it and may match much, no word is left. -/
def cutStart (longest : Bool) (pattern : List Glob) : Value → Value
  | .single text => .single ((cutStart? longest pattern text).getD text)
  | .list [] => .list []
  | .list (first :: rest) =>
    if longest && matchesText pattern first then .list [[]]
    else .list ((cutStart? longest pattern first).getD first :: rest)

/-- Words without what the pattern matches at the end of the last one where it matches something,
and without the words after that. -/
def cutLast? (pattern : List Glob) : List Text → Option (List Text)
  | [] => none
  | first :: rest =>
    match cutLast? pattern rest with
    | some rest => some (first :: rest)
    | none => (cutEnd? false pattern first).map ([·])

/-- The value without what the pattern matches at its end. Among words, if the pattern may match
much, the first one is looked at. -/
def cutEnd (longest : Bool) (pattern : List Glob) : Value → Value
  | .single text => .single ((cutEnd? longest pattern text).getD text)
  | .list words =>
    let left := if longest then (words.head?.bind (cutEnd? true pattern)).map ([·])
      else cutLast? pattern words
    .list (left.getD words)

end Value

/-! ### Parameters -/

/-- Every option with its letter, if it has one. -/
def optionTable : List (Option Char × String) :=
  [(some 'e', "errexit"), (some 'f', "noglob"), (some 'I', "ignoreeof"),
    (some 'i', "interactive"), (some 'm', "monitor"), (some 'n', "noexec"), (some 's', "stdin"),
    (some 'x', "xtrace"), (some 'v', "verbose"), (some 'V', "vi"), (some 'E', "emacs"),
    (some 'C', "noclobber"), (some 'a', "allexport"), (some 'b', "notify"),
    (some 'u', "nounset"), (some 'p', "privileged"), (none, "nolog"), (none, "debug")]

/-- The number that digits are. -/
def numberOf (digits : Text) : Nat :=
  (takeDigits 10 0 digits).1

namespace Shell

/-- The first separator, by which all parameters are joined. -/
def joint (shell : Shell) : Text :=
  shell.separators.take 1

/-- All parameters, as one text if they are words in one or if only one text is asked for. -/
def allParameters (shell : Shell) (many quoted words : Bool) : Value :=
  if many && quoted && words then .list shell.parameters
  else if many && !quoted then
    if (shell.value? "IFS".toList).isSome then .list shell.parameters
    else .single (List.intercalate [' '] shell.parameters)
  else .single (List.intercalate shell.joint shell.parameters)

/-- The value of a parameter. All parameters are words of their own where many words can stand,
unless they are asked for as one text in quotes. -/
def parameter? (shell : Shell) (many quoted : Bool) (name : Text) : Option Value :=
  match name with
  | ['#'] => some (.single (toString shell.parameters.length).toList)
  | ['?'] => some (.single (toString shell.status).toList)
  | ['$'] => some (.single (toString processNumber).toList)
  | ['!'] => shell.lastProcess?.map fun process => .single (toString process).toList
  | ['-'] => some (.single (optionTable.reverse.filterMap fun (letter, name) =>
    if shell.has name then letter else none))
  | ['@'] => some (shell.allParameters many quoted true)
  | ['*'] => some (shell.allParameters many quoted false)
  | first :: _ =>
    if first.isDigit then
      match numberOf name with
      | 0 => some (.single shell.name)
      | number + 1 => shell.parameters[number]?.map .single
    else (shell.value? name).map .single
  | [] => none

end Shell

end Script

end CommandShell
