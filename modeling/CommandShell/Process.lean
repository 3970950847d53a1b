/-
This file says what a process is to the shell that started it: what it runs, what
it was started with, and where its two streams lead. A stream can lead to the
terminal, to an open file, or to a pipe. A pipe is the bytes that went into it. An
open file has a position of its own, so two openings of one file overwrite each
other, unless they append: then each write goes to the end of the file as it is at
that moment.

All of these are plain values. What writing does to files and to the terminal is
said where the world is.
-/

import CommandShell.Program
import CommandShell.Tree.Lookup

namespace CommandShell

/-! ### Where output goes -/

/-- An open file. -/
structure Handle where
  location : Location
  appending : Bool
  offset : Nat
  deriving DecidableEq

/-- What output can be written to. -/
inductive Sink
  | terminal (stream : Stream)
  | file (handle : Handle)
  /-- A pipe with what was written to it. It takes no more than `limit` bytes, if that is set. -/
  | pipe (written : Output) (limit : Option Nat)
  deriving DecidableEq

namespace Sink

/-- A pipe to which nothing was written. -/
def newPipe : Sink := .pipe .empty none

/-- A sink that takes no more than `limit` bytes if it is a pipe. -/
def limited (sink : Sink) (limit : Option Nat) : Sink :=
  match sink with
  | .pipe written _ => .pipe written limit
  | sink => sink

/-- What went into a pipe. -/
def held : Sink → Bytes
  | .pipe written _ => written.bytes
  | _ => []

end Sink

/-! ### Started programs -/

/-- What a started process runs. -/
inductive Code
  | program (program : Program)
  /-- The system's shell with a script, whose path is the first argument, and the place of it. -/
  | script (text : Bytes) (place : Location)

/-- A started program and what it was started with. -/
structure Process where
  code : Code
  call : Invocation
  /-- The directory it works in. -/
  base : Base

/-- A stage when the shell's own commands had their turn. -/
inductive Turned
  /-- A command that has run, with what went into its pipe and its status. -/
  | finished (held : Bytes) (status : Nat)
  /-- A program that was started. -/
  | running (process : Process) (output errors : Sink)

/-- Whether a stage is a program that was started. -/
def Turned.isRunning : Turned → Bool
  | .finished .. => false
  | .running .. => true

end CommandShell
