/-
This file holds the commands that change and print the directory. The shell has a
spelling of it, in which links count as directories.
-/

import CommandShell.Script.Builtin.Arguments
import CommandShell.Script.Condition

namespace CommandShell

namespace Script

/-- The slashes with which a path starts, as far as they count: exactly two of them are kept. -/
def rootOf (path : Text) : Text :=
  match path with
  | '/' :: '/' :: '/' :: _ => ['/']
  | '/' :: '/' :: _ => ['/', '/']
  | _ => ['/']

/-- The spelling of a directory after the pieces of a path. -/
def spellPath (directory path : Text) : Text :=
  let absolute := path.head? = some '/'
  let start := if absolute then [] else (directory.splitOn '/').filter (· ≠ [])
  let pieces := (path.splitOn '/').foldl (fun pieces piece =>
    if piece = [] ∨ piece = ['.'] then pieces
    else if piece = ['.', '.'] then pieces.dropLast
    else pieces ++ [piece]) start
  rootOf (if absolute then path else directory) ++ List.intercalate ['/'] pieces

/-- Change the directory, if the path leads to one. -/
def enter (physical : Bool) (path : Text) : Run Bool := do
  let shell ← get
  let spelled :=
    if physical || (shell.directory = [] && path.head? ≠ some '/') then path
    else spellPath shell.directory path
  match shell.world.tree.inspect shell.world.cwd (bytesOf spelled) with
  | .ok (base, .directory) =>
    let directory := if spelled.head? = some '/' && !physical then spelled
      else (base.path?.map textOf).getD []
    set { shell with
      world := { shell.world with cwd := base }
      directory := directory
      tracked := shell.tracked.map Tracked.aged }
    setVariable "OLDPWD".toList shell.directory true
    setVariable "PWD".toList directory true
    return true
  | _ => return false

/-- Whether a path is not looked for in the list of directories. -/
def isAnchored (path : Text) : Bool :=
  match path.splitOn '/' with
  | [] :: _ :: _ => true
  | first :: _ => first = ['.'] || first = ['.', '.']
  | [] => false

/-- The directory that a path means, and whether it was found in the list of directories. -/
def findDirectory (shell : Shell) (path : Text) : Text × Bool :=
  let entries := ((shell.value? "CDPATH".toList).getD []).splitOn ':'
  let found := entries.find? fun entry =>
    let path := if entry = [] then path else entry ++ '/' :: path
    (nodeAt shell path) matches some .directory
  match found with
  | some (first :: rest) => (first :: rest ++ '/' :: path, true)
  | _ => (path, false)

/-- Change the directory. -/
def changeDirectoryCommand (args : List Text) : Run Nat := do
  let (options, args) ← takeOptions ['L', 'P'] args
  let physical := options.getLast? == some 'P'
  let shell ← get
  let (target, back) := match args.head? with
    | none => ((shell.value? "HOME".toList).getD [], false)
    | some ['-'] => ((shell.value? "OLDPWD".toList).getD [], true)
    | some target => (target, false)
  let anchored := isAnchored target
  let target := if target = [] then ['.'] else target
  let (path, listed) := if anchored then (target, false) else findDirectory shell target
  if ← enter physical path then
    if back || listed then print "cd".toList ((← get).directory ++ ['\n']) else return 0
  else fail ("can't cd to ".toList ++ target)

/-- Print the directory. -/
def printDirectoryCommand (args : List Text) : Run Nat := do
  let (options, _) ← takeOptions ['L', 'P'] args
  let shell ← get
  let directory := if options.getLast? == some 'P' then
      (shell.world.cwd.path?.map textOf).getD []
    else shell.directory
  print "pwd".toList (directory ++ ['\n'])

end Script

end CommandShell
