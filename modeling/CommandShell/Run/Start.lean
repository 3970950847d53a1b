/-
This file brings the stages of a pipeline to the point where they can run. Every
stage is given its meaning first, and one name without a meaning stops the whole
pipeline. Then the programs are started from left to right, each writing into a
pipe that the next stage reads, except for the last one. The shell's own commands
wait until all programs are started.
-/

import CommandShell.Builtin.Run
import CommandShell.Program.Launch
import CommandShell.Run.Open

namespace CommandShell

/-- A stage with its open files and its meaning. -/
structure Prepared where
  stage : Stage
  files : Files
  command : Command
  deriving DecidableEq

/-- A stage whose name means nothing. -/
structure Unresolved where
  name : String
  files : Files
  deriving DecidableEq

/-- Give every stage its meaning, or find the first that has none. -/
def prepareAll (session : Session) (world : World) :
    List (Stage × Files) → Except Unresolved (List Prepared)
  | [] => .ok []
  | (stage, files) :: rest =>
    match session.resolve world stage.program with
    | none => .error ⟨stage.program, files⟩
    | some command => (prepareAll session world rest).map (⟨stage, files, command⟩ :: ·)

/-- A stage that is ready to run. -/
inductive Ready
  /-- A command of the shell that waits for its turn. -/
  | waiting (builtin : Builtin) (args : List String) (output diagnostics : Sink)
  /-- A program that was started. -/
  | running (process : Process) (output errors : Sink)

/-- A stage whose program could not be started, and the stages before it. -/
structure StartFailure where
  earlier : List Ready
  name : String
  diagnostics : Sink
  fault : Fault

/-- The wording for a program that could not be started. -/
def StartFailure.message (failure : StartFailure) : String :=
  failure.name ++ ": " ++ failure.fault.message

/-- One more stage in front of the outcome of the later ones. -/
def addReady (ready : Ready) :
    Except StartFailure (List Ready) × World → Except StartFailure (List Ready) × World
  | (.ok others, world) => (.ok (ready :: others), world)
  | (.error failure, world) =>
    (.error { failure with earlier := ready :: failure.earlier }, world)

/-- Start the programs of the stages from left to right. Stages are counted from `index`, and the
files at `held` are open for writing on behalf of earlier stages. -/
def startAll (session : Session) (index : Nat) (held : List Location) :
    List Prepared → World → Except StartFailure (List Ready) × World
  | [], world => (.ok [], world)
  | prepared :: rest, world =>
    let output := if rest.isEmpty then prepared.files.output else .newPipe
    let kept := held ++ prepared.files.stderr.toList.map (·.location)
    match prepared.command with
    | .builtin builtin =>
      addReady (.waiting builtin prepared.stage.args output prepared.files.diagnostics)
        (startAll session (index + 1) kept rest world)
    | .external path =>
      let busy := held ++ (prepared :: rest).flatMap (·.files.locations)
      match session.launch world busy path prepared.stage.program prepared.stage.args with
      | .error fault =>
        (.error ⟨[], prepared.stage.program, prepared.files.diagnostics, fault⟩, world)
      | .ok process =>
        addReady (.running process output prepared.files.errors)
          (startAll session (index + 1) kept rest (world.record (.started index)))

end CommandShell
