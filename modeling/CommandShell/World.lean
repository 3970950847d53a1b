/-
This file holds everything around a session as one value: the tree of files, the
directory and the variables of the process, what is left of the standard input,
what the terminal was given, the programs that files can hold, a journal of the
processes that were started, killed and waited for, and those for which nobody
waits. Each operation of the shell is a function from worlds to worlds.

The terminal can be a pair of files. Each of its streams then goes on in its file
where it stopped, whatever was put there since by somebody who opened that file by
name. Such a file is reached through a device of the tree that leads to the stream.
-/

import CommandShell.Environment
import CommandShell.Process
import CommandShell.Tree.Edit

namespace CommandShell

/-- What happened to the process of a stage. Stages are counted from zero. -/
inductive ProcessEvent
  | started (stage : Nat)
  | killed (stage : Nat)
  | waited (stage : Nat)
  deriving DecidableEq, Repr

/-- A file that keeps what a stream of the terminal is given. -/
structure Kept where
  content : Output
  /-- The place in the file at which the stream goes on. -/
  offset : Nat
  deriving DecidableEq, Repr

/-- A file to which nothing was written. -/
def Kept.empty : Kept := ⟨.empty, 0⟩

/-- The stream is given more, and that goes to where it stopped. -/
def Kept.goOn (kept : Kept) (bytes : Bytes) : Kept :=
  if bytes = [] then kept
  else ⟨kept.content.addAt kept.offset bytes, kept.offset + bytes.length⟩

/-- Everything around a session. -/
structure World where
  tree : Tree
  /-- The directory of the process. -/
  cwd : Base
  /-- The entries of the variables of the process. -/
  entries : List Bytes
  /-- What is left of the standard input. -/
  unread : Bytes
  /-- What the terminal's standard output was given. -/
  out : Output
  /-- What the terminal's standard error was given. -/
  err : Output
  /-- Whether what the terminal is given is kept in files, whose size can be limited. -/
  recorded : Bool
  /-- The file of the terminal's standard output, if there is one. -/
  outFile : Kept
  /-- The file of the terminal's standard error, if there is one. -/
  errFile : Kept
  /-- The compiled programs by name. -/
  programs : String → Option Program
  /-- Why the system does not let the process work in the directory at a place, as it does not if
  the directory may not be searched. -/
  barred : Location → Option Fault
  /-- How many turns a loop of a script may take. -/
  patience : Nat
  journal : List ProcessEvent
  /-- The stages of the pipelines whose programs go on although nobody waits for them. -/
  left : List (List Turned)

namespace World

/-- The value of a variable of the process. -/
def var? (world : World) (key : String) : Option String :=
  (findEntry world.entries (utf8 key)).bind decode?

/-- Whether a regular file with an execute bit stands at the end of a path. -/
def isExecutable (world : World) (path : Path) : Bool :=
  match world.tree.inspect world.cwd path with
  | .ok (_, .file mode _) => hasExecuteBit mode
  | _ => false

/-- Whether what stands at a place may be opened to read it. -/
def mayRead (world : World) (location : Location) : Bool :=
  match world.tree.get? location with
  | some (.file mode _) => grants mode .read
  | _ => true

/-- Keep what is in a file in one piece. That makes it cheap to read it bit by bit. -/
def join (world : World) (location : Location) : World :=
  match world.tree.get? location with
  | some (.file mode content) =>
    let joined := { content with written := content.written.joined }
    { world with tree := world.tree.set location (.file mode joined) }
  | _ => world

/-- The names in the directory at the end of a path, which are none if there is no directory. -/
def names (world : World) (path : Path) : List Name :=
  match world.tree.inspect world.cwd path with
  | .ok (⟨location, 0⟩, .directory) => world.tree.names location
  | _ => []

/-- What a stream of the terminal was given. -/
def printed (world : World) (stream : Stream) : Output :=
  match stream with
  | .stdout => world.out
  | .stderr => world.err

/-- The terminal is given more output. -/
def print (world : World) (stream : Stream) (bytes : Bytes) : World :=
  match stream with
  | .stdout => { world with out := world.out.add bytes, outFile := world.outFile.goOn bytes }
  | .stderr => { world with err := world.err.add bytes, errFile := world.errFile.goOn bytes }

/-- The file of a stream of the terminal. -/
def kept (world : World) (stream : Stream) : Kept :=
  match stream with
  | .stdout => world.outFile
  | .stderr => world.errFile

/-- The file of a stream of the terminal becomes what it is now. -/
def keep (world : World) (stream : Stream) (now : Kept) : World :=
  match stream with
  | .stdout => { world with outFile := now }
  | .stderr => { world with errFile := now }

/-- The world after somebody wrote to the tree and to the terminal of another one. -/
def adopt (world other : World) : World :=
  { world with
    tree := other.tree
    out := other.out
    err := other.err
    outFile := other.outFile
    errFile := other.errFile }

/-- The bytes of the regular file at a place. That can be a file of the terminal. -/
def bytesAt? (world : World) (location : Location) : Option Bytes :=
  match world.tree.get? location with
  | some (.file _ content) => some content.bytes
  | some (.device (.terminal stream)) =>
    if world.recorded then some (world.kept stream).content.bytes else none
  | _ => none

/-- The journal goes on. -/
def record (world : World) (event : ProcessEvent) : World :=
  { world with journal := world.journal ++ [event] }

/-- The programs among these stages go on, and nobody waits for them. -/
def leave (world : World) (stages : List Turned) : World :=
  if stages.any (·.isRunning) then { world with left := world.left ++ [stages] } else world

/-- Take the process to a directory, if the system lets it go there. -/
def enter (world : World) (location : Location) : Except Fault World :=
  match world.barred location with
  | some fault => .error fault
  | none => .ok { world with cwd := .standing location }

/-- Remove an entry of the tree and all below it. A process in there stays in what is now a
removed directory. -/
def remove (world : World) (location : Location) : World :=
  { world with
    tree := world.tree.remove location
    cwd := world.cwd.afterRemoval location }

end World

end CommandShell
