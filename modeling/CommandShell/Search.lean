/-
This file finds out what a command name means. The shell's own commands come
first. A plain name is then looked for in each directory of the search list in
turn, and any other name is a path of its own. Nothing is remembered: every
question looks at the tree as it is.
-/

import CommandShell.Builtin
import CommandShell.Session

namespace CommandShell

/-- The byte that separates the directories of a search list. -/
def colon : UInt8 := 58

/-- The directories of a search list. An empty entry is the empty path. -/
def searchEntries (searchList : Bytes) : List Path :=
  searchList.splitOn colon

/-- What a command name means. -/
inductive Command
  | builtin (builtin : Builtin)
  | external (path : Path)
  deriving DecidableEq, Repr

namespace World

/-- The first executable of this name in the directories of a search list. -/
def findInList (world : World) (searchList : Bytes) (name : Name) : Option Path :=
  ((searchEntries searchList).map fun directory => Path.join directory name.bytes).find?
    world.isExecutable

/-- The executable that a name stands for. A path of its own is read from `directory`. -/
def findCommand (world : World) (searchList : Bytes) (directory path : Path) : Option Path :=
  match CommandName.ofPath path with
  | .nothing => none
  | .plain name => world.findInList searchList name
  | .path =>
    if world.isExecutable (Path.join directory path) then some (Path.join directory path)
    else none

/-- The executables in one directory whose names are text. -/
def executablesIn (world : World) (directory : Path) : List Bytes :=
  (world.names directory).filterMap fun name =>
    if world.isExecutable (Path.join directory name.bytes) ∧ (decode? name.bytes).isSome then
      some name.bytes
    else none

/-- The names of the executables in the directories of a search list, in byte order. -/
def executables (world : World) (searchList : Bytes) : List Bytes :=
  sortedSet ((searchEntries searchList).flatMap world.executablesIn)

/-- The command names that start with a text, in byte order. -/
def candidates (world : World) (text : String) (searchList : Option String) : List String :=
  let listed := match searchList with
    | none => []
    | some searchList => (searchEntries (utf8 searchList)).flatMap world.executablesIn
  let names := sortedSet (Builtin.all.map (fun builtin => utf8 builtin.name) ++ listed)
  (names.filter fun name => (utf8 text).isPrefixOf name).filterMap decode?

end World

/-- What a command name means in a session. Without a search list the empty one is used, which
has one empty entry. -/
def Session.resolve (session : Session) (world : World) (name : String) : Option Command :=
  match Builtin.ofName? name with
  | some builtin => some (.builtin builtin)
  | none =>
    (world.findCommand (utf8 ((session.searchList? world).getD "")) session.directory
      (utf8 name)).map .external

/-- The wording for a name that means nothing. -/
def notFoundMessage (name : String) : String :=
  name ++ ": command not found"

end CommandShell
