/-
This file says what a program is to the shell: something that is given a name,
arguments, variables, a directory and the bytes of its standard input, and that
answers with the bytes it took, the bytes it wrote to its two streams in the
order of writing, and the way it ended. A program acts through its streams only.
-/

import CommandShell.Bytes

namespace CommandShell

/-- The two streams a program writes to. -/
inductive Stream
  | stdout
  | stderr
  deriving DecidableEq, Repr

/-- The way a program ended. -/
inductive Status
  | exited (code : Nat)
  | signalled (number : Nat)
  deriving DecidableEq, Repr

/-- The status number of an ended program. -/
def Status.code : Status → Nat
  | .exited code => code
  | .signalled number => 128 + number

/-- What a program is started with. -/
structure Invocation where
  /-- The name it was called by. -/
  name : Bytes
  args : List Bytes
  /-- Each variable as its key, an equals sign and its value. -/
  environment : List Bytes
  /-- The directory it works in. -/
  directory : Bytes
  deriving DecidableEq, Repr

/-- What a program did. -/
structure Transcript where
  /-- The number of bytes it took from its standard input. -/
  taken : Nat
  writes : List (Stream × Bytes)
  status : Status
  deriving DecidableEq, Repr

/-- A program answers an invocation and its standard input. -/
abbrev Program := Invocation → Bytes → Transcript

/-- Everything written to one of the streams. -/
def Transcript.output (transcript : Transcript) (stream : Stream) : Bytes :=
  transcript.writes.flatMap fun write => if write.1 = stream then write.2 else []

end CommandShell
