/-
This file runs programs from a script. A file in no known format is a script of its
own, and gets a shell of its own. A name is looked for in the list of directories
from the place on where it was found, until something can be started.
-/

import CommandShell.Script.Part
import CommandShell.Script.Start

namespace CommandShell

namespace Script

/-- Write what a program writes, up to where that is the end of it. A program takes no notice of a
pipe that nobody reads. -/
def writeAll (status : Status) : List (Stream × Bytes) → Run Status
  | [] => return status
  | (stream, bytes) :: rest => do
    let shell ← get
    let (written, next) := shell.write (match stream with | .stdout => 1 | .stderr => 2) bytes
    set next
    match written with
    | .cut signal =>
      if signal = brokenPipeSignal || shell.ignored.contains signal then writeAll status rest
      else return .signalled signal
    | _ => writeAll status rest

/-- Run a compiled program on the descriptors of the shell. -/
def runProgram (program : Program) (call : Invocation) : Run Status := do
  let shell ← get
  let transcript := program call (shell.unread 0)
  set (shell.consume 0 transcript.taken)
  writeAll transcript.status transcript.writes

/-- The shell that reads the script at a place, or why it cannot be read. -/
def Shell.reading? (shell : Shell) (place : Location) : Except Text Shell :=
  let refused (fault : Fault) : Except Text Shell :=
    .error ("cannot open ".toList ++ shell.name ++ ": ".toList ++ fault.reason.toList)
  let number := shell.freeNumber 0
  if shell.openLimit ≤ number then refused .tooManyOpen
  else if !shell.world.mayRead place then refused .accessDenied
  else
    match shell.keptNumber with
    | .error problem => .error (labelled (toString number).toList problem)
    | .ok kept => .ok { shell with reading := kept :: shell.reading }

/-- Run the script of a shell up to the end of its file. An error is the end of it where the shell
goes on after errors. -/
def runWhole (again : Again) (text : Bytes) (place : Location) : Run Nat := do
  let prompt : Prompt := fun first => promptText again (if first then "PS1" else "PS2")
  let status ← match ← attempt (runFile again prompt text place) with
    | .ok status => pure status
    | .error .error => do
      let shell ← get
      if !shell.has "interactive" then throw .error
      put 2 (← prompt true)
      pure shell.status
    | .error jump => throw jump
  endInput prompt
  return status

/-- Run a script in a shell of its own. -/
def runScript (again : Again) (call : Invocation) (text : Bytes) (place : Location) :
    Run Status := do
  let before ← get
  set (Shell.start before.setting (textOf (call.args.head?.getD []))
    ((call.args.drop 1).map textOf) call.environment)
  let result ← attempt do
    if (← get).directory = [] then
      put 2 ("sh: 0: getcwd() failed: " ++ Fault.noEntry.reason ++ "\n").toList
    match (← get).reading? place with
    | .ok shell =>
      set shell
      runToEnd again (runWhole again text place)
    | .error problem =>
      put 2 (textOf call.name ++ ": 0: ".toList ++ problem ++ ['\n'])
      return .exited errorStatus
  modify before.resumed
  match result with
  | .ok status | .error (.replaced status) => return status
  | .error (.killed signal) => return .signalled signal
  | .error jump => throw jump

/-- Run what a process runs. -/
def runCode (again : Again) (code : Code) (call : Invocation) : Run Status :=
  match code with
  | .program program => runProgram program call
  | .script text place => runScript again call text place

/-- The first program that can be started at one of the paths, or why there is none. -/
def loadFirst (shell : Shell) (name : Text) (args : List Text) (last : Fault) :
    List Text → Except Fault Loaded
  | [] => .error last
  | path :: rest =>
    match loadCode shell path name args with
    | .ok loaded => .ok loaded
    | .error fault => loadFirst shell name args (if meansMissing fault then last else fault) rest

/-- Run the first program that can be started at one of the paths, or give the status of the
failure. -/
def runFirst (again : Again) (name : Text) (args paths : List Text) : Run (Nat ⊕ Status) := do
  let shell ← get
  match loadFirst shell name args .noEntry paths with
  | .error fault =>
    warn (name ++ ": ".toList ++ openReason fault "not found")
    return .inl (startFailureStatus fault)
  | .ok loaded =>
    return .inr (← runCode again loaded.code
      ⟨loaded.name, loaded.args, shell.entries, shell.world.cwd.path?.getD []⟩)

/-- The paths at which a program can be, or why there is none. Only the programs of the system are
meant if `usual` is set. -/
def programPaths (usual : Bool) (name : Text) : Run (Except Fault (List Text)) := do
  if name.contains '/' then return .ok [name]
  let shell ← get
  if usual then
    return (searchPlace shell name none .noEntry 0 systemList).map fun place =>
      (systemList.drop place).map (pathBelow name)
  return (← locate name).map fun place => (shell.searchList.drop place).map (pathBelow name)

/-- Run a command that is a program. The last thing that a process does is to become the program,
if nothing is to be done on signals. -/
def runExternal (again : Again) (position : Position) (usual : Bool) (name : Text)
    (args : List Text) : Run Nat := do
  match ← programPaths usual name with
  | .error fault =>
    warn (name ++ ": ".toList ++ openReason fault "not found")
    return unknownStatus
  | .ok paths =>
    let becomes := position.last && !(← get).hasTraps
    match ← runFirst again name args paths with
    | .inl status => if becomes then return status else settle [.exited status]
    | .inr status => if becomes then throw (.replaced status) else settle [status]

end Script

end CommandShell
