/-
This file is the command line: a shell in a scratch world of its own. It reads
its standard input to the end, runs the lines, and prints what the terminal of
that world was given. The process ends with the status of the shell.
-/

import CommandShell.Repl
import CommandShell.Scratch

namespace CommandShell

/-- The variables of a new shell. -/
def newVars : Vars := [("PATH", "/bin"), ("HOME", "/home")]

/-- The world of a new shell: an empty home directory, and `tool` in the search list. -/
def newWorld : World :=
  let world := scratchWorld (utf8 "/home") newVars [] false
  { world with tree := world.tree.including [] (utf8 "/bin/tool") (toolNode toolMode) }

/-- Everything that a stream has to give. -/
partial def readAll (stream : IO.FS.Stream) (read : ByteArray) : IO ByteArray := do
  let piece ← stream.read 8192
  if piece.isEmpty then return read else readAll stream (read ++ piece)

end CommandShell

open CommandShell in
/-- Run the lines of the standard input. -/
def main : IO UInt32 := do
  let input ← readAll (← IO.getStdin) ByteArray.empty
  let result := repl .silent input.data.toList newWorld
  (← IO.getStdout).write ⟨result.world.out.bytes.toArray⟩
  (← IO.getStderr).write ⟨result.world.err.bytes.toArray⟩
  return UInt32.ofNat result.status
