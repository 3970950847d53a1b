/-
This file holds the table of the commands that the shell knows itself, except for
those that run other commands. A command gets its arguments and has a status. What
it finds wrong it reports under its own name.
-/

import CommandShell.Script.Builtin.Alias
import CommandShell.Script.Builtin.Directory
import CommandShell.Script.Builtin.Job
import CommandShell.Script.Builtin.Name
import CommandShell.Script.Builtin.Option
import CommandShell.Script.Builtin.Resource
import CommandShell.Script.Builtin.Signal
import CommandShell.Script.Builtin.Text

namespace CommandShell

namespace Script

/-- The table of the commands that do not run other commands. -/
def builtin? (name : String) : Option (List Text → Run Nat) :=
  match name with
  | ":" | "true" => some fun _ => return 0
  | "jobs" => some jobsCommand
  | "wait" => some waitCommand
  | "bg" | "fg" => some moveCommand
  | "type" => some typeCommand
  | "command" => some questionCommand
  | "hash" => some hashCommand
  | "alias" => some aliasCommand
  | "unalias" => some unaliasCommand
  | "ulimit" => some limitCommand
  | "times" => some fun _ => timesCommand
  | "false" => some fun _ => return 1
  | "echo" => some echoCommand
  | "printf" => some printfCommand
  | "test" => some testCommand
  | "[" => some bracketCommand
  | "read" => some readLineCommand
  | "cd" | "chdir" => some changeDirectoryCommand
  | "pwd" => some printDirectoryCommand
  | "export" => some exportCommand
  | "readonly" => some readonlyCommand
  | "unset" => some unsetCommand
  | "local" => some localCommand
  | "shift" => some shiftCommand
  | "set" => some setCommand
  | "exit" => some exitCommand
  | "return" => some returnCommand
  | "break" => some (loopCommand .leave)
  | "continue" => some (loopCommand .resume)
  | "kill" => some killCommand
  | "trap" => some trapCommand
  | "umask" => some maskCommand
  | "getopts" => some optionsCommand
  | _ => none

end Script

end CommandShell
