/-
This file holds what writing and opening do to the world. A write to the terminal
or to a pipe goes behind what is there, and a write to an open file goes to the
position of its handle. Whoever writes to a pipe can be stopped by its limit, which
stands for the end of those who read from it.

The terminal is supposed to take whatever it is given, and a pipe or one more handle
can always be had. Only an open file can refuse a write.
-/

import CommandShell.Pipeline
import CommandShell.World

namespace CommandShell

namespace World

/-- What opening a path does to the world at whose end stands neither a file nor a directory. It
empties a file of the terminal if it is to truncate. -/
def passed (world : World) (mode : WriteMode) (node : Option Node) : World :=
  match mode, node with
  | .truncate, some (.device (.terminal stream)) =>
    if world.recorded then world.keep stream { world.kept stream with content := .empty }
    else world
  | _, _ => world

/-- Open a file to write to it. A free name gets an empty file, and opening to truncate empties a
file that is there. -/
def openFor (world : World) (mode : WriteMode) (path : Path) : Except Fault (Handle × World) :=
  match world.tree.locate .create world.cwd path with
  | .error fault => .error fault
  | .ok (.removed _) => .error .isDirectory
  | .ok (.free directory name) =>
    let location := directory ++ [name]
    .ok (⟨location, mode = .append, 0⟩,
      { world with tree := world.tree.set location (.file freshMode (.ofBytes [])) })
  | .ok (.taken location) =>
    let handle : Handle := ⟨location, mode = .append, 0⟩
    match world.tree.get? location with
    | some .directory => .error .isDirectory
    | some (.file permissions _) =>
      if grants permissions .write then
        match mode with
        | .append => .ok (handle, world)
        | .truncate =>
          .ok (handle,
            { world with tree := world.tree.set location (.file permissions (.ofBytes [])) })
      else .error .accessDenied
    | node => .ok (handle, world.passed mode node)

/-- Write to a stream of the terminal through a device that leads there. In a file that happens at a
place of its own, and the stream itself does not move. -/
def writeThrough (world : World) (stream : Stream) (handle : Handle) (bytes : Bytes) :
    Handle × World :=
  let kept := world.kept stream
  if world.recorded then
    let offset := if handle.appending then kept.content.size else handle.offset
    ({ handle with offset := offset + bytes.length },
      world.keep stream { kept with content := kept.content.addAt offset bytes })
  else (handle, world.keep stream (kept.goOn bytes))

/-- Write to an open file. Writing nothing always succeeds. -/
def writeTo (world : World) (handle : Handle) (bytes : Bytes) : Except Fault (Handle × World) :=
  if bytes = [] then .ok (handle, world)
  else
    match world.tree.get? handle.location with
    | some (.file mode content) =>
      let offset := if handle.appending then content.size else handle.offset
      let content := { content with written := content.written.addAt offset bytes }
      .ok ({ handle with offset := offset + bytes.length },
        { world with tree := world.tree.set handle.location (.file mode content) })
    | some (.device .full) => .error .noSpace
    | some (.device (.terminal stream)) => .ok (world.writeThrough stream handle bytes)
    | _ => .ok (handle, world)

end World

namespace Sink

/-- Write to a sink. Whoever can be stopped by the limit of a pipe has to ask for it before. -/
def write (sink : Sink) (bytes : Bytes) (world : World) : Except Fault (Sink × World) :=
  match sink with
  | .terminal stream => .ok (sink, world.print stream bytes)
  | .pipe written limit => .ok (.pipe (written.add bytes) limit, world)
  | .file handle =>
    match world.writeTo handle bytes with
    | .error fault => .error fault
    | .ok (handle, world) => .ok (.file handle, world)

end Sink

/-- The number of bytes that a pipe takes before they are read. -/
def pipeSize : Nat := 65536

/-- How often the limit of a pipe is raised before there is none. -/
def pipeRounds : Nat := 8

/-- What comes of running something that writes to a pipe and then what reads from it. The writer
runs up to a limit first. If the reader came to the end of that, which `ranOut` tells, both run with
twice the limit instead, and so on. -/
def raiseLimit {α : Type} (run : (limit : Option Nat) → α) (ranOut : Nat → α → Bool) :
    (rounds limit : Nat) → α
  | 0, _ => run none
  | rounds + 1, limit =>
    let result := run (some limit)
    if ranOut limit result then raiseLimit run ranOut rounds (2 * limit) else result

/-- What comes of running something that writes to a pipe and then what reads from it. Whoever
writes more than is read is stopped. -/
def overPipe {α : Type} (run : (limit : Option Nat) → α) (ranOut : Nat → α → Bool) : α :=
  raiseLimit run ranOut pipeRounds pipeSize

end CommandShell
