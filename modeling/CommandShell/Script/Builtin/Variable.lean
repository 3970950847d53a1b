/-
This file holds the commands for variables, functions and parameters.
-/

import CommandShell.Script.Builtin.Arguments
import CommandShell.Script.Expansion

namespace CommandShell

namespace Script

/-- The names of the variables of a kind with their values, in order. -/
def listVariables (start : Text) (kind : Variable → Bool) (shell : Shell) : Text :=
  let names := sortedSet ((shell.vars.filter fun entry => kind entry.2).map fun entry =>
    bytesOf entry.1)
  names.flatMap fun name =>
    let value := match shell.value? (textOf name) with
      | some value => '=' :: quotedText value
      | none => []
    start ++ textOf name ++ value ++ ['\n']

/-- Divide an argument at its first equals sign. -/
def divideArgument (argument : Text) : Text × Option Text :=
  let name := argument.takeWhile (· != '=')
  (name, match argument.drop name.length with
    | [] => none
    | _ :: value => some value)

/-- Mark variables, and set them if values are given. Nothing behind the option for a list of them
counts. -/
def markVariables (name : Text) (kind : Variable → Bool) (mark : Variable → Variable)
    (args : List Text) : Run Nat := do
  let (listed, args) ← match args with
    | ('-' :: 'p' :: _) :: args => pure (true, args)
    | args => do pure (false, (← takeOptions [] args).2)
  if listed || args.isEmpty then
    return ← print name (listVariables (name ++ [' ']) kind (← get))
  for argument in args do
    let (variableName, value) := divideArgument argument
    if !isVariableName variableName then fail (labelled variableName "bad variable name")
    match value with
    | some value => setVariable variableName value false
    | none => pure ()
    modify fun shell => shell.mark variableName mark
  return 0

/-- Let started programs get variables. -/
def exportCommand (args : List Text) : Run Nat :=
  markVariables "export".toList (·.exported) (fun entry => { entry with exported := true }) args

/-- Let variables not be set any more. -/
def readonlyCommand (args : List Text) : Run Nat :=
  markVariables "readonly".toList (·.fixed) (fun entry => { entry with fixed := true }) args

/-- Forget variables or functions. -/
def unsetCommand (args : List Text) : Run Nat := do
  let (options, names) ← takeOptions ['f', 'v'] args
  for name in names do
    let shell ← get
    if options.getLast? == some 'f' then
      set { shell with functions := shell.functions.filter fun entry => entry.1 ≠ name }
    else
      let name := (divideArgument name).1
      if !isVariableName name then fail (labelled name "bad variable name")
      forgetVariable name
  return 0

/-- Let the running function have variables of its own. -/
def localCommand (args : List Text) : Run Nat := do
  for argument in args do
    let shell ← get
    match shell.locals with
    | [] => fail "not in a function".toList
    | own :: outer =>
      let (name, value) := divideArgument argument
      if name = ['-'] then
        set { shell with locals := (.options shell.options :: own) :: outer }
      else
        if !isVariableName name then fail (labelled name "bad variable name")
        if !own.any (·.isVariable name) then
          set { shell with locals := (.variable name (shell.entry? name) :: own) :: outer }
        match value with
        | some value => setVariable name value false
        | none => pure ()
  if args.isEmpty && (← get).locals.isEmpty then fail "not in a function".toList
  return 0

/-- Drop parameters. -/
def shiftCommand (args : List Text) : Run Nat := do
  let number ← match args.head? with
    | some argument => count argument
    | none => pure 1
  let shell ← get
  if shell.parameters.length < number then fail "can't shift that many".toList
  set { shell with parameters := shell.parameters.drop number, optionPlace := .start }
  return 0

end Script

end CommandShell
