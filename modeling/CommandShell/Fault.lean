/-
This file lists the ways in which the system refuses a request of the shell:
looking something up, opening or writing a file, starting a program. A fault is
a cause; its wording is given in one place.
-/

namespace CommandShell

/-- Why the system refused a request. -/
inductive Fault
  /-- Nothing stands at the path. -/
  | noEntry
  /-- An argument or a variable is too long. -/
  | argumentTooLong
  /-- The file is not in a format that can be started. -/
  | badFormat
  /-- The owner's permission bits forbid it. -/
  | accessDenied
  /-- A name before the last is not a directory. -/
  | notDirectory
  /-- A directory stands where a file is needed. -/
  | isDirectory
  /-- As many files are open as the process may open. -/
  | tooManyOpen
  /-- The program's file is open for writing. -/
  | textBusy
  /-- The device takes no more bytes. -/
  | noSpace
  /-- A name, or the whole path, is too long. -/
  | nameTooLong
  /-- Too many symbolic links on the way. -/
  | tooManyLinks
  /-- A path contains the byte zero. -/
  | nulInPath
  /-- An argument, a variable or a program's path contains the byte zero. -/
  | nulInArgument
  deriving DecidableEq, Repr

/-- The reason for a fault. -/
def Fault.reason : Fault → String
  | .noEntry => "No such file or directory"
  | .argumentTooLong => "Argument list too long"
  | .badFormat => "Exec format error"
  | .accessDenied => "Permission denied"
  | .notDirectory => "Not a directory"
  | .isDirectory => "Is a directory"
  | .tooManyOpen => "Too many open files"
  | .textBusy => "Text file busy"
  | .noSpace => "No space left on device"
  | .nameTooLong => "File name too long"
  | .tooManyLinks => "Too many levels of symbolic links"
  | .nulInPath => "file name contained an unexpected NUL byte"
  | .nulInArgument => "nul byte found in provided data"

/-- The number by which the system knows a fault. The two about the byte zero are found before the
system is asked. -/
def Fault.number? : Fault → Option Nat
  | .noEntry => some 2
  | .argumentTooLong => some 7
  | .badFormat => some 8
  | .accessDenied => some 13
  | .notDirectory => some 20
  | .isDirectory => some 21
  | .tooManyOpen => some 24
  | .textBusy => some 26
  | .noSpace => some 28
  | .nameTooLong => some 36
  | .tooManyLinks => some 40
  | .nulInPath => none
  | .nulInArgument => none

/-- The wording of a fault. -/
def Fault.message (fault : Fault) : String :=
  match fault.number? with
  | some number => fault.reason ++ " (os error " ++ toString number ++ ")"
  | none => fault.reason

end CommandShell
