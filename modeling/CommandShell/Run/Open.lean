/-
This file opens the files of a pipeline's redirections. They are opened stage by
stage, the standard output of a stage before its standard error, and the first
one that cannot be opened ends it. What was opened before that stays made or
emptied.
-/

import CommandShell.Session
import CommandShell.Sink

namespace CommandShell

/-- The open files that take the place of a stage's streams. -/
structure Files where
  stdout : Option Handle
  stderr : Option Handle
  deriving DecidableEq

/-- A target that could not be opened. -/
structure OpenFailure where
  target : String
  fault : Fault
  deriving DecidableEq, Repr

/-- The wording for a target that could not be opened. -/
def OpenFailure.message (failure : OpenFailure) : String :=
  failure.target ++ ": " ++ failure.fault.message

namespace Files

/-- Where messages about a stage go: to its own error file, or else to the terminal's standard
output. -/
def diagnostics (files : Files) : Sink :=
  match files.stderr with
  | some handle => .file handle
  | none => .terminal .stdout

/-- Where the last stage of a pipeline writes. -/
def output (files : Files) : Sink :=
  match files.stdout with
  | some handle => .file handle
  | none => .terminal .stdout

/-- Where a program writes its errors. -/
def errors (files : Files) : Sink :=
  match files.stderr with
  | some handle => .file handle
  | none => .terminal .stderr

/-- The places of the open files. -/
def locations (files : Files) : List Location :=
  (files.stdout.toList ++ files.stderr.toList).map (·.location)

end Files

/-- Open the file of a redirection, if there is one. -/
def openRedirect (session : Session) (redirect : Option Redirect) (world : World) :
    Except OpenFailure (Option Handle) × World :=
  match redirect with
  | none => (.ok none, world)
  | some redirect =>
    match world.openFor redirect.mode (Path.join session.directory (utf8 redirect.target)) with
    | .error fault => (.error ⟨redirect.target, fault⟩, world)
    | .ok (handle, world) => (.ok (some handle), world)

/-- Open the files of one stage. -/
def openStage (session : Session) (stage : Stage) (world : World) :
    Except OpenFailure Files × World :=
  match openRedirect session stage.stdout world with
  | (.error failure, world) => (.error failure, world)
  | (.ok stdout, world) =>
    match openRedirect session stage.stderr world with
    | (.error failure, world) => (.error failure, world)
    | (.ok stderr, world) => (.ok ⟨stdout, stderr⟩, world)

/-- Open the files of every stage. -/
def openAll (session : Session) : List Stage → World → Except OpenFailure (List Files) × World
  | [], world => (.ok [], world)
  | stage :: rest, world =>
    match openStage session stage world with
    | (.error failure, world) => (.error failure, world)
    | (.ok files, world) =>
      match openAll session rest world with
      | (.error failure, world) => (.error failure, world)
      | (.ok others, world) => (.ok (files :: others), world)

end CommandShell
