/-
This file holds the state of a session: its variables, its current directory as
it was given, and whether it is to end. A detached copy of a session is for a
stage of a longer pipeline; changing its directory never moves the process.
-/

import CommandShell.World

namespace CommandShell

/-- The state of a session. -/
structure Session where
  vars : Vars
  /-- The current directory, as it was given or as the last change spelled it. -/
  directory : Path
  /-- Whether the session is to end. -/
  exiting : Bool
  /-- Whether changes stay with this copy. -/
  detached : Bool
  deriving DecidableEq, Repr

/-- Why the directory was not changed. -/
inductive DirectoryError
  /-- The path leads nowhere, or the process cannot go there. -/
  | fault (cause : Fault)
  /-- The path leads to something that is not a directory. -/
  | notDirectory (path : Path)
  deriving DecidableEq, Repr

/-- Whether the directory was changed, and the session and the world after that was tried. -/
structure DirectoryResult where
  result : Except DirectoryError Unit
  session : Session
  world : World

/-- The wording of a refused change of directory. -/
def DirectoryError.message : DirectoryError → Bytes
  | .fault cause => utf8 cause.message
  | .notDirectory path => shown path ++ utf8 " is not a directory"

namespace Session

/-- A session with the given variables in the given directory. -/
def start (vars : Vars) (directory : Path) : Session := ⟨vars, directory, false, false⟩

/-- A copy whose changes stay with it. -/
def detach (session : Session) : Session := { session with detached := true }

/-- The value of a variable: the session's own, or else that of the process. -/
def var? (session : Session) (world : World) (key : String) : Option String :=
  session.vars.get? key <|> world.var? key

/-- The list of directories in which commands are looked for. -/
def searchList? (session : Session) (world : World) : Option String :=
  session.var? world "PATH"

/-- The home directory. -/
def home? (session : Session) (world : World) : Option String :=
  session.var? world "HOME"

/-- Take the process to a directory, unless the session is detached. -/
def bringProcess (session : Session) (world : World) (location : Location) :
    Except Fault World :=
  if session.detached then .ok world else world.enter location

/-- Change the directory. The process goes first, unless the session is detached, and it can be kept
from going. Then the session spells the new directory in its canonical form. -/
def changeDirectory (session : Session) (world : World) (path : Path) : DirectoryResult :=
  match world.tree.canonical world.cwd (Path.join session.directory path) with
  | .error fault => ⟨.error (.fault fault), session, world⟩
  | .ok location =>
    if world.tree.get? location = some .directory then
      match session.bringProcess world location with
      | .error fault => ⟨.error (.fault fault), session, world⟩
      | .ok world => ⟨.ok (), { session with directory := location.path }, world⟩
    else ⟨.error (.notDirectory location.path), session, world⟩

end Session

end CommandShell
