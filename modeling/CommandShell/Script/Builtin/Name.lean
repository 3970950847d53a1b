/-
This file holds the commands that say what names mean: a reserved word, an alias,
a function, a command of the shell, or a program.
-/

import CommandShell.Script.Builtin.Alias
import CommandShell.Script.Builtin.Job
import CommandShell.Script.Grammar
import CommandShell.Script.Search

namespace CommandShell

namespace Script

/-- The commands of the shell. -/
def builtinNames : List String :=
  ["command", "eval", "exec", ".", "type", ":", "true", "hash", "jobs", "alias", "wait", "false",
    "echo", "printf", "test", "[", "read", "cd", "chdir", "pwd", "export", "readonly", "unset",
    "local", "shift", "set", "exit", "return", "break", "continue", "kill", "trap", "umask",
    "times", "getopts", "ulimit", "unalias", "fg", "bg"]

/-- What a name means. -/
inductive Meaning
  | reserved
  | replaced (value : Text)
  | function
  | builtin
  | special
  | program (path : Text) (tracked : Bool)

/-- Whether a name means a function or a command of the shell. -/
def Shell.knows (shell : Shell) (name : Text) : Bool :=
  (shell.functions.lookup name).isSome || builtinNames.contains (String.ofList name)

/-- The program that a name means. Only the programs of the system are meant if `usual` is set. -/
def programMeant? (usual : Bool) (name : Text) : Run (Option Meaning) := do
  let shell ← get
  if name.contains '/' then
    return if (nodeAt shell name).isSome then some (.program name false) else none
  if usual then
    return match searchPlace shell name none .noEntry 0 systemList with
      | .ok place => some (.program (pathBelow name ((systemList[place]?).getD [])) false)
      | .error _ => none
  match shell.tracked? name with
  | some entry => return some (.program (shell.pathAt name entry.place) true)
  | none =>
    match ← locate name with
    | .ok place => return some (.program (shell.pathAt name place) false)
    | .error _ => return none

/-- What a name means. -/
def meaning? (usual : Bool) (name : Text) : Run (Option Meaning) := do
  let shell ← get
  let text := String.ofList name
  if reservedWords.contains text then return some .reserved
  match shell.aliases.lookup name with
  | some value => return some (.replaced value)
  | none =>
    if specialNames.contains text then return some .special
    if (shell.functions.lookup name).isSome then return some .function
    if builtinNames.contains text then return some .builtin
    programMeant? usual name

/-- What a name means, in words. -/
def Meaning.told (meaning : Meaning) (name : Text) : Text :=
  name ++ match meaning with
    | .reserved => " is a shell keyword".toList
    | .replaced value => " is an alias for ".toList ++ value
    | .function => " is a shell function".toList
    | .builtin => " is a shell builtin".toList
    | .special => " is a special shell builtin".toList
    | .program path false => " is ".toList ++ path
    | .program path true => " is a tracked alias for ".toList ++ path

/-- What a name means, as short as possible. -/
def Meaning.brief (meaning : Meaning) (name : Text) : Text :=
  match meaning with
  | .replaced value => "alias ".toList ++ name ++ '=' :: quotedText value
  | .program path _ => path
  | _ => name

/-- Say what a name means. -/
def describe (usual brief : Bool) (name : Text) : Run (Text × Nat) := do
  match ← meaning? usual name with
  | some meaning =>
    return ((if brief then meaning.brief name else meaning.told name) ++ ['\n'], 0)
  | none => return (if brief then [] else labelled name "not found\n", unknownStatus)

/-- Say what names mean. -/
def typeCommand (names : List Text) : Run Nat := do
  let answers ← names.mapM (describe false false)
  let status ← print "type".toList (answers.flatMap (·.1))
  return if answers.all (·.2 = 0) then status else unknownStatus

/-- Say what one name means. -/
def questionCommand (args : List Text) : Run Nat := do
  let (options, names) ← takeOptions ['p', 'v', 'V'] args
  match names with
  | [] => return 0
  | name :: _ =>
    if !(options.contains 'v' || options.contains 'V') then return 0
    let (text, status) ← describe (options.contains 'p') (!options.contains 'V') name
    return max status (← print "command".toList text)

/-! ### Programs that were found -/

/-- The number of places in the table of commands. -/
def commandPlaces : Nat := 31

/-- The programs that were found, in the order of the table of commands. -/
def trackedList (shell : Shell) : Text :=
  (tableOrder commandPlaces (fun entry => letterSum entry.name &&& 0x7FFF) shell.tracked).flatMap
    fun entry =>
      shell.pathAt entry.name entry.place ++ if entry.stale then ['*', '\n'] else ['\n']

/-- Look for programs anew. -/
def locateEach : List Text → Run Nat
  | [] => return 0
  | name :: rest => do
    modify fun shell => shell.untrack name
    let status ←
      if name.contains '/' || (← get).knows name then pure 0
      else
        match ← locate name with
        | .ok _ => pure 0
        | .error fault => do
          warn (name ++ ": ".toList ++ openReason fault "not found")
          pure 1
    return max status (← locateEach rest)

/-- Look for programs, or list those that were found, or forget them. -/
def hashCommand (args : List Text) : Run Nat := do
  let (options, names) ← takeOptions ['r'] args
  if options ≠ [] then
    modify fun shell => { shell with tracked := [] }
    return 0
  if names = [] then return ← print "hash".toList (trackedList (← get))
  locateEach names

end Script

end CommandShell
