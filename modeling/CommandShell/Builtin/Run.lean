/-
This file runs the shell's own commands. Such a command never reads its standard
input. It produces output and a status, or an error for the user; only `cd` and
`exit` change the session, and only `cd` moves the process.
-/

import CommandShell.Builtin.Arguments
import CommandShell.Search

namespace CommandShell

/-- Why a command of the shell failed. -/
inductive BuiltinError
  | arguments (cause : ArgumentError)
  /-- There is no home directory to go to. -/
  | homeUnset
  /-- The directory could not be changed to this. -/
  | noDirectory (target : String)
  /-- The output could not be written. -/
  | fault (cause : Fault)
  deriving DecidableEq, Repr

/-- The wording of the error. -/
def BuiltinError.message : BuiltinError → String
  | .arguments cause => cause.message
  | .homeUnset => "cd: HOME not set"
  | .noDirectory target => "cd: no such file or directory: " ++ target
  | .fault cause => cause.message

/-- What a command did: its output, its status or error, and the state after it. -/
structure BuiltinResult where
  output : Bytes
  status : Except BuiltinError Nat
  session : Session
  world : World

namespace BuiltinResult

/-- Output and a status, and nothing changed. -/
def print (session : Session) (world : World) (output : Bytes) (status : Nat) : BuiltinResult :=
  ⟨output, .ok status, session, world⟩

/-- An error, and nothing changed. -/
def fail (session : Session) (world : World) (error : BuiltinError) : BuiltinResult :=
  ⟨[], .error error, session, world⟩

end BuiltinResult

/-- The words of `echo` joined by spaces, with a newline at the end unless the first one is
`-n`, which is not printed then. -/
def echoOutput : List String → Bytes
  | "-n" :: words => utf8 (String.intercalate " " words)
  | words => utf8 (String.intercalate " " words ++ "\n")

/-- What `type` says about a name, and whether it found it. -/
def describe (session : Session) (world : World) (name : String) : Bytes × Bool :=
  match session.resolve world name with
  | some (.builtin _) => (utf8 (name ++ " is a shell builtin\n"), true)
  | some (.external path) => (utf8 (name ++ " is ") ++ shown path ++ utf8 "\n", true)
  | none => (utf8 (name ++ ": not found\n"), false)

/-- The text after `~/`, if the target starts so. -/
def afterTilde? (target : String) : Option String :=
  match target.toList with
  | '~' :: '/' :: rest => some (String.ofList rest)
  | _ => none

/-- The directory that the target of `cd` stands for. No target, an empty one and `~` are the home
directory, and `~/` starts from it; there may be none. -/
def cdTarget? (session : Session) (world : World) (target : Option String) : Option Path :=
  let home := (session.home? world).map utf8
  match target with
  | none => home
  | some target =>
    if target = "" ∨ target = "~" then home
    else
      match afterTilde? target with
      | some rest => home.map fun home => Path.join home (utf8 rest)
      | none => some (utf8 target)

/-- Change the directory of the session. Without a target the error names the home directory. -/
def runCd (session : Session) (world : World) (target : Option String) : BuiltinResult :=
  match cdTarget? session world target with
  | none => .fail session world .homeUnset
  | some path =>
    let changed := session.changeDirectory world path
    match changed.result with
    | .ok () => .print changed.session changed.world [] 0
    | .error _ =>
      .fail changed.session changed.world
        (.noDirectory (target.getD ((session.home? world).getD "")))

/-- Run a command on its operands. -/
def Builtin.perform (builtin : Builtin) (operands : List String) (session : Session)
    (world : World) : BuiltinResult :=
  match builtin with
  | .echo => .print session world (echoOutput operands) 0
  | .exit => .print { session with exiting := true } world [] 0
  | .pwd => .print session world (shown session.directory ++ utf8 "\n") 0
  | .cd => runCd session world operands.head?
  | .type =>
    let descriptions := operands.map (describe session world)
    .print session world (descriptions.flatMap (·.1)) (if descriptions.all (·.2) then 0 else 1)

/-- Run a command on its arguments. -/
def Builtin.run (builtin : Builtin) (args : List String) (session : Session) (world : World) :
    BuiltinResult :=
  match builtin.request args with
  | .error error => .fail session world (.arguments error)
  | .ok .help => .print session world (utf8 builtin.usage) 0
  | .ok (.run operands) => builtin.perform operands session world

end CommandShell
