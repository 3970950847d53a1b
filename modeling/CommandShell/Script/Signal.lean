/-
This file holds the signals: their names, by which scripts speak of them, and what
is said when one of them ended a program. The signal zero is the end of the shell.
-/

import CommandShell.Script.Arithmetic

namespace CommandShell

namespace Script

/-- The number of signals, with the one that is the end of the shell. -/
def signalCount : Nat := 65

/-- The names of the signals that are not for programs to use freely. -/
def fixedSignalNames : List String :=
  ["EXIT", "HUP", "INT", "QUIT", "ILL", "TRAP", "ABRT", "BUS", "FPE", "KILL", "USR1", "SEGV",
    "USR2", "PIPE", "ALRM", "TERM", "16", "CHLD", "CONT", "STOP", "TSTP", "TTIN", "TTOU", "URG",
    "XCPU", "XFSZ", "VTALRM", "PROF", "WINCH", "IO", "PWR", "SYS", "32", "33"]

/-- The first of the signals that are free. -/
def firstFreeSignal : Nat := 34

/-- The last of the signals that are free. -/
def lastFreeSignal : Nat := 64

/-- The name of a signal. Those that are free are counted from the nearer end. -/
def signalName (signal : Nat) : String :=
  match fixedSignalNames[signal]? with
  | some name => name
  | none =>
    if signal = firstFreeSignal then "RTMIN"
    else if signal < 50 then "RTMIN+" ++ toString (signal - firstFreeSignal)
    else if signal < lastFreeSignal then "RTMAX-" ++ toString (lastFreeSignal - signal)
    else "RTMAX"

/-- The signal with this number or name. Names are looked for from the signal `first` on. -/
def signal? (first : Nat) (name : Text) : Option Nat :=
  if name ≠ [] ∧ name.all Char.isDigit then
    let number := (takeDigits 10 0 name).1
    if number < signalCount then some number else none
  else
    (List.range signalCount).find? fun signal =>
      first ≤ signal && (signalName signal).toList = name.map Char.toUpper

/-- The words for a signal. -/
def signalText (signal : Nat) : String :=
  let texts := ["", "Hangup", "Interrupt", "Quit", "Illegal instruction", "Trace/breakpoint trap",
    "Aborted", "Bus error", "Floating point exception", "Killed", "User defined signal 1",
    "Segmentation fault", "User defined signal 2", "Broken pipe", "Alarm clock", "Terminated",
    "Stack fault", "Child exited", "Continued", "Stopped (signal)", "Stopped",
    "Stopped (tty input)", "Stopped (tty output)", "Urgent I/O condition",
    "CPU time limit exceeded", "File size limit exceeded", "Virtual timer expired",
    "Profiling timer expired", "Window changed", "I/O possible", "Power failure",
    "Bad system call"]
  match texts[signal]? with
  | some text => text
  | none =>
    if signal < firstFreeSignal then "Unknown signal " ++ toString signal
    else "Real-time signal " ++ toString (signal - firstFreeSignal)

/-- The signal that is sent if none is named. -/
def usualSignal : Nat := 15

/-- The signal for a division without a result. -/
def divisionSignal : Nat := 8

/-- The signal that ends a process whatever it does. -/
def killSignal : Nat := 9

/-- The signal for what is nested too deeply. -/
def overflowSignal : Nat := 11

/-- The signal for a process whose time is over. -/
def timeSignal : Nat := 24

/-- The signal for a write to a pipe that nobody reads. -/
def brokenPipeSignal : Nat := 13

/-- The signal for a write beyond the size that a file may have. -/
def fileSizeSignal : Nat := 25

/-- The signal that tells of the end of a process. -/
def childSignal : Nat := 17

/-- Whether nothing is said when this signal ended a program. -/
def isQuiet (signal : Nat) : Bool :=
  signal = 2 || signal = 13

/-- Whether a signal does nothing to a shell that has no answer to it. -/
def isHarmless (signal : Nat) : Bool :=
  [0, 17, 18, 19, 20, 21, 22, 23, 28].contains signal

end Script

end CommandShell
