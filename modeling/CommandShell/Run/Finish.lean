/-
This file runs the stages of a pipeline that is ready. The shell's own commands
take their turn first, from left to right; in a pipeline of several stages each
works on a detached copy of the session. The programs follow from left to right.
Each reads what the stage before it wrote, and only the first stage of the
pipeline reads the session's standard input. The status is that of the last
stage.
-/

import CommandShell.Run.Start
import CommandShell.Script.Execution

namespace CommandShell

/-! ### The shell's own commands -/

/-- What a command of the shell left behind: what went into its pipe and its status, unless its
error could not be reported. -/
structure TurnResult where
  result : Except Fault (Bytes × Nat)
  session : Session
  world : World

/-- Tell the user about the error of a command. It then has the status one. -/
def reportError (diagnostics : Sink) (error : BuiltinError) (session : Session) (world : World) :
    TurnResult :=
  match diagnostics.write (utf8 (error.message ++ "\n")) world with
  | .error fault => ⟨.error fault, session, world⟩
  | .ok (_, world) => ⟨.ok ([], 1), session, world⟩

/-- Run a command of the shell, write its output and report its error. -/
def takeTurn (builtin : Builtin) (args : List String) (output diagnostics : Sink)
    (session : Session) (world : World) : TurnResult :=
  let result := builtin.run args session world
  match result.status with
  | .error error => reportError diagnostics error result.session result.world
  | .ok status =>
    match output.write result.output result.world with
    | .error fault => reportError diagnostics (.fault fault) result.session result.world
    | .ok (sink, world) => ⟨.ok (sink.held, status), result.session, world⟩

/-- A stage that never gets its turn if it is a command of the shell. -/
def Ready.skip : Ready → Turned
  | .waiting .. => .finished [] 0
  | .running process output errors => .running process output errors

/-- The stages after the turns of the shell's own commands, and the fault that ended them early,
if there was one. -/
structure TurnsResult where
  stages : List Turned
  fault : Option Fault
  session : Session
  world : World

/-- One more stage in front. -/
def TurnsResult.add (turned : Turned) (turns : TurnsResult) : TurnsResult :=
  { turns with stages := turned :: turns.stages }

/-- Let the shell's own commands take their turns. If `alone` is not set, each works on a detached
copy of the session. -/
def takeTurns (alone : Bool) (session : Session) : List Ready → World → TurnsResult
  | [], world => ⟨[], none, session, world⟩
  | .running process output errors :: rest, world =>
    (takeTurns alone session rest world).add (.running process output errors)
  | .waiting builtin args output diagnostics :: rest, world =>
    let turn := takeTurn builtin args output diagnostics
      (if alone then session else session.detach) world
    let session := if alone then turn.session else session
    match turn.result with
    | .ok (held, status) => (takeTurns alone session rest turn.world).add (.finished held status)
    | .error fault => ⟨.finished [] 0 :: rest.map Ready.skip, some fault, session, turn.world⟩

/-! ### Programs -/

/-- The streams of a program and the world around it. -/
structure Streams where
  output : Sink
  errors : Sink
  world : World

/-- Write to a stream. A program does not care whether it could. -/
def Streams.write (streams : Streams) (write : Stream × Bytes) : Streams :=
  match write.1 with
  | .stdout =>
    match streams.output.write write.2 streams.world with
    | .ok (sink, world) => { streams with output := sink, world := world }
    | .error _ => streams
  | .stderr =>
    match streams.errors.write write.2 streams.world with
    | .ok (sink, world) => { streams with errors := sink, world := world }
    | .error _ => streams

/-- What a process left behind. -/
structure ProcessResult where
  /-- The number of bytes it took from its input. -/
  taken : Nat
  /-- What went into its output if that is a pipe. -/
  held : Bytes
  status : Status
  world : World
  /-- Whether it came to an end. A script that waits for something in a loop may not do so. -/
  ended : Bool

/-- Let a process run on an input and two sinks. A compiled program acts through its streams, and a
script can change the tree besides. -/
def Process.run (process : Process) (input : Bytes) (output errors : Sink) (world : World) :
    ProcessResult :=
  match process.code with
  | .program program =>
    let transcript := program process.call input
    let streams := transcript.writes.foldl Streams.write ⟨output, errors, world⟩
    ⟨transcript.taken, streams.output.held, transcript.status, streams.world, true⟩
  | .script text place =>
    let finished := Script.run process.call process.base text place input output errors world
    ⟨finished.taken, finished.held, finished.status, world.adopt finished.world, finished.ended⟩

/-- What a program reads: what the stage before it wrote, or the standard input. -/
def inputFor (given : Option Bytes) (world : World) : Bytes :=
  given.getD world.unread

/-- The world after a program took bytes from its input. -/
def consume (given : Option Bytes) (taken : Nat) (world : World) : World :=
  match given with
  | some _ => world
  | none => { world with unread := world.unread.drop taken }

/-- What the stages left behind: how much the first of them took from what the stage before wrote,
the status of the last one, and whether all of them came to an end. -/
structure RunResult where
  taken : Nat
  status : Nat
  world : World
  ended : Bool

/-- Let the programs run from left to right. Stages are counted from `index`, `given` is what the
stage before wrote, and the shell waits for each of them if `waiting` is set. A script that writes
more than is read is stopped. -/
def runPrograms (waiting : Bool) :
    (index : Nat) → (given : Option Bytes) → (status : Nat) → List Turned → World → RunResult
  | _, _, status, [], world => ⟨0, status, world, true⟩
  | index, _, _, .finished held status :: rest, world =>
    { runPrograms waiting (index + 1) (some held) status rest world with taken := 0 }
  | index, given, _, .running process output errors :: rest, world =>
    let run (limit : Option Nat) : ProcessResult × RunResult :=
      let result := process.run (inputFor given world) (output.limited limit) errors world
      let world := consume given result.taken result.world
      let world := if waiting then world.record (.waited index) else world
      (result, runPrograms waiting (index + 1) (some result.held) result.status.code rest world)
    let (result, others) := match process.code with
      | .program _ => run none
      | .script .. => overPipe run fun limit (result, others) =>
          result.held.length == limit && limit ≤ others.taken
    { others with taken := result.taken, ended := result.ended && others.ended }

/-- Come to the end of a pipeline when the shell's own commands had their turns. The shell lets the
programs run and waits for them. If an error could not be reported it leaves them behind. -/
def TurnsResult.conclude (turns : TurnsResult) : RunResult :=
  match turns.fault with
  | none => runPrograms true 0 none 0 turns.stages turns.world
  | some _ => ⟨0, 0, turns.world.leave turns.stages, true⟩

/-- Kill the started programs and wait for them. What they did before is not said here. -/
def killAll : (index : Nat) → List Ready → World → World
  | _, [], world => world
  | index, .waiting .. :: rest, world => killAll (index + 1) rest world
  | index, .running .. :: rest, world =>
    killAll (index + 1) rest ((world.record (.killed index)).record (.waited index))

end CommandShell
