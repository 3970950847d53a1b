/-
This file holds the commands that print, test and read texts.
-/

import CommandShell.Script.Builtin.Arguments
import CommandShell.Script.Condition
import CommandShell.Script.Print

namespace CommandShell

namespace Script

/-- Print words. -/
def echoCommand (args : List Text) : Run Nat :=
  print "echo".toList (echoed args)

/-- Print arguments in a format. -/
def printfCommand (args : List Text) : Run Nat := do
  let (_, args) ← takeOptions [] args
  match args with
  | [] => fail "usage: printf format [arg ...]".toList
  | format :: args =>
    let (printing, finish) := formatted format args
    printing.warnings.forM warn
    let status ← print "printf".toList printing.output
    match finish with
    | .wrong problem => fail problem
    | _ => return max status (min 1 printing.warnings.length)

/-- Test a condition. -/
def testCommand (args : List Text) : Run Nat := do
  return if ← condition (args.length + 1) args then 0 else 1

/-- Test a condition in brackets. The last word has to start with the closing bracket. -/
def bracketCommand (args : List Text) : Run Nat :=
  if args.getLast?.bind List.head? = some ']' then testCommand args.dropLast
  else fail "missing ]".toList

/-! ### Reading -/

/-- Read a line into variables. A prompt is for terminals only. -/
def readLineCommand (args : List Text) : Run Nat := do
  let (options, names) ← takeBundles [('p', true), ('r', false)] args.length args
  if names = [] then fail "arg count".toList
  let shell ← get
  let (letters, taken, ended) := takeLine (options.any (·.1 == 'r')) false (shell.unread 0)
  set (shell.consume 0 taken)
  let fields := cutLine shell.separators names.length letters
  for (argument, word) in names.zip (fields ++ List.replicate names.length []) do
    let name := argument.takeWhile (· != '=')
    if !isVariableName name then fail (labelled name "bad variable name")
    setVariable name word false
  return if ended then 0 else 1

end Script

end CommandShell
