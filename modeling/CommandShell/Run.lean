/-
This file runs a pipeline and a line. A pipeline goes through four phases: its
redirections are opened, its names are given their meaning, its programs are
started, and its stages run. A failure in one phase is reported once and keeps
the later phases from taking place.
-/

import CommandShell.Run.Finish
import CommandShell.Word

namespace CommandShell

/-- What stands in front of the shell's own messages. -/
def shellTag : String := "tinysh: "

/-- The status of a line whose redirection cannot be opened. -/
def statusNotOpened : Nat := 1

/-- The status of a line that is no pipeline. -/
def statusSyntax : Nat := 2

/-- The status of a pipeline with a program that cannot be started. -/
def statusNotStarted : Nat := 126

/-- The status of a pipeline with a name that means nothing. -/
def statusNotFound : Nat := 127

/-- The status of a line, unless the shell could not report on it, and the state after it. -/
structure Outcome where
  result : Except Fault Nat
  session : Session
  world : World

/-- A line on the terminal's standard error about what the shell refused. -/
def complain (world : World) (message : String) : World :=
  world.print .stderr (utf8 (shellTag ++ message ++ "\n"))

/-- Run stages that are ready. If an error of one of the shell's own commands cannot be reported,
the started programs are left behind. -/
def finish (session : Session) (stages : List Ready) (world : World) : Outcome :=
  let turns := takeTurns (stages.length ≤ 1) session stages world
  let run := turns.conclude
  match turns.fault with
  | none => ⟨.ok run.status, turns.session, run.world⟩
  | some fault => ⟨.error fault, turns.session, run.world⟩

/-- Give up a pipeline of which a program could not be started: report it, and kill what was
started before. If it cannot be reported, the started programs are left behind. -/
def abandon (session : Session) (failure : StartFailure) (world : World) : Outcome :=
  match failure.diagnostics.write (utf8 (failure.message ++ "\n")) world with
  | .ok (_, world) => ⟨.ok statusNotStarted, session, killAll 0 failure.earlier world⟩
  | .error fault => ⟨.error fault, session, world.leave (failure.earlier.map Ready.skip)⟩

/-- Report a name that means nothing. -/
def reportUnresolved (session : Session) (unresolved : Unresolved) (world : World) : Outcome :=
  match unresolved.files.diagnostics.write
      (utf8 (notFoundMessage unresolved.name ++ "\n")) world with
  | .ok (_, world) => ⟨.ok statusNotFound, session, world⟩
  | .error fault => ⟨.error fault, session, world⟩

/-- Run a pipeline. -/
def execute (session : Session) (pipeline : Pipeline) (world : World) : Outcome :=
  match openAll session pipeline world with
  | (.error failure, world) => ⟨.ok statusNotOpened, session, complain world failure.message⟩
  | (.ok files, world) =>
    match prepareAll session world (pipeline.zip files) with
    | .error unresolved => reportUnresolved session unresolved world
    | .ok prepared =>
      match startAll session 0 [] prepared world with
      | (.error failure, world) => abandon session failure world
      | (.ok stages, world) => finish session stages world

/-- Run a line. A line without words does nothing, and one that is no pipeline is complained
about. -/
def executeLine (session : Session) (line : String) (world : World) : Outcome :=
  let words := splitWords line
  if words = [] then ⟨.ok 0, session, world⟩
  else
    match Pipeline.ofWords words with
    | .error error => ⟨.ok statusSyntax, session, complain world error.message⟩
    | .ok pipeline => execute session pipeline world

end CommandShell
