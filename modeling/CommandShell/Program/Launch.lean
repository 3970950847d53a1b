/-
This file starts programs. The process changes to the session's directory first,
and the program's path is read from there. A path without a slash is searched
for once more, now in the directories of the search list as the process sees it.
A file that starts with `#!` is run by the program it names.

A session that has a search list of its own makes that search in the new process,
and there a file in no known format is handed to the system's shell. All other
programs are started at once, and such a file is refused.
-/

import CommandShell.Search

namespace CommandShell

/-- A program with the name and the arguments that it gets. -/
structure Loaded where
  code : Code
  name : Bytes
  args : List Bytes

/-- The path of the system's shell. -/
def systemShell : Bytes := utf8 "/bin/sh"

/-- The directories that are searched when there is no search list at all. -/
def standardList : Bytes := utf8 "/bin:/usr/bin"

/-- How many files may be looked into until a compiled program is found. -/
def interpreterLimit : Nat := 6

/-- The number of bytes that an argument or the entry of a variable must stay below. -/
def argumentLimit : Nat := 131072

/-! ### Files that name a program -/

/-- The number of bytes at the start of a file by which its format is told. -/
def headSize : Nat := 256

/-- The start of a file. After the end of a short file come zeros. -/
def fileHead (content : Bytes) : Bytes :=
  content.take headSize ++ List.replicate (headSize - content.length) 0

/-- Whether a byte separates the parts of a first line. -/
def isGap (byte : UInt8) : Bool :=
  byte == 32 || byte == 9

/-- Whether a byte ends the name of a program in a first line. -/
def endsName (byte : UInt8) : Bool :=
  isGap byte || byte == 0

/-- The bytes without separators at the end. -/
def dropLastGaps (line : Bytes) : Bytes :=
  (line.reverse.dropWhile isGap).reverse

/-- The first line, given what follows `#!` in the start of the file. If the line goes on beyond
that, its end is cut off, which must not happen to the name of the program. -/
def firstLine? (rest : Bytes) : Option Bytes :=
  if 10 ∈ rest then some (rest.takeWhile (· != 10))
  else if (rest.dropWhile isGap).any endsName then some rest.dropLast
  else none

/-- The program that the first line of a file names after `#!`, with the one argument that may
follow. A zero byte ends either of them. -/
def interpreter? (content : Bytes) : Option (Path × List Bytes) :=
  match fileHead content with
  | 35 :: 33 :: rest =>
    match (firstLine? rest).map fun line => (dropLastGaps line).dropWhile isGap with
    | none | some [] => none
    | some line =>
      let path := line.takeWhile fun byte => !endsName byte
      match line.drop path.length with
      | [] | 0 :: _ => some (path, [])
      | gaps => some (path, [(gaps.dropWhile isGap).takeWhile (· != 0)])
  | _ => none

/-! ### Loading -/

/-- The entries that a started program gets: those of the process, or if the session has variables
of its own, the variables of the process overlaid with them. -/
def Session.environment (session : Session) (world : World) : List Bytes :=
  if session.vars = [] then world.entries
  else session.vars.overlay world.entries

namespace World

/-- The content of the file at a path read from `directory`, if it may be started. A file that is
open for writing, as those at `busy` are, cannot be started. The empty path is the directory. -/
def openProgram (world : World) (busy : List Location) (directory : Base) (path : Path) :
    Except Fault Content :=
  if path = [] then .error .accessDenied
  else
    match world.tree.inspect directory path with
    | .error fault => .error fault
    | .ok (place, .file mode content) =>
      if !grants mode .start then .error .accessDenied
      else if place.location ∈ busy then .error .textBusy
      else .ok content
    | .ok _ => .error .accessDenied

/-- The program in an open file that was found at `path`. A file that names a program is given to
that program as an argument. At most `files` files are looked into, and the one after them is
still opened. -/
def interpret (world : World) (busy : List Location) (directory : Base) :
    (files : Nat) → Content → Path → Bytes → List Bytes → Except Fault Loaded
  | 0, _, _, _, _ => .error .tooManyLinks
  | files + 1, content, path, name, args =>
    match content.image, interpreter? content.bytes with
    | some image, _ =>
      match world.programs image with
      | some program => .ok ⟨.program program, name, args⟩
      | none => .error .badFormat
    | none, none => .error .badFormat
    | none, some (interpreter, extra) =>
      match world.openProgram busy directory interpreter with
      | .error fault => .error fault
      | .ok content =>
        interpret world busy directory files content interpreter interpreter
          (extra ++ path :: args)

/-- The program at a path read from `directory`, to be started with these entries. -/
def load (world : World) (busy : List Location) (directory : Base) (entries : List Bytes)
    (path name : Bytes) (args : List Bytes) : Except Fault Loaded :=
  match world.openProgram busy directory path with
  | .error fault => .error fault
  | .ok content =>
    if (name :: args ++ entries).any fun text => argumentLimit ≤ text.length then
      .error .argumentTooLong
    else world.interpret busy directory interpreterLimit content path name args

/-- The system's shell, given the file at a path as a script. -/
def loadScript (world : World) (busy : List Location) (directory : Base) (path : Path)
    (args : List Bytes) : Except Fault Loaded :=
  match world.openProgram busy directory path, world.tree.inspect directory path with
  | .error fault, _ | _, .error fault => .error fault
  | .ok content, .ok (place, _) =>
    match content.image with
    | none => .ok ⟨.script content.bytes place.location, systemShell, path :: args⟩
    | some _ => .error .badFormat

/-- The path of a file in a directory of the search list. The empty directory is where the
process works. -/
def pathIn (entry file : Bytes) : Path :=
  if entry = [] then file else entry ++ slash :: file

/-- The directories of a search list as they are tried. One whose path is too long counts as the
empty path, and is left out if it is the last. -/
def triedEntries : List Path → List Path
  | [] => []
  | entry :: rest =>
    if entry.length < pathLimit then entry :: triedEntries rest
    else if rest = [] then []
    else [] :: triedEntries rest

/-- Load the first program of this name in the directories. A directory that has none is passed
over, one whose file may not be started too, but then that is the fault in the end. If `scripts`
is set, a file in no known format is a script. -/
def loadFirst (world : World) (busy : List Location) (directory : Base) (entries : List Bytes)
    (scripts : Bool) (file name : Bytes) (args : List Bytes) (denied : Bool) (last : Fault) :
    List Path → Except Fault Loaded
  | [] => .error (if denied then .accessDenied else last)
  | entry :: rest =>
    let path := pathIn entry file
    match world.load busy directory entries path name args with
    | .ok loaded => .ok loaded
    | .error .accessDenied =>
      loadFirst world busy directory entries scripts file name args true last rest
    | .error .noEntry =>
      loadFirst world busy directory entries scripts file name args denied .noEntry rest
    | .error .notDirectory =>
      loadFirst world busy directory entries scripts file name args denied .notDirectory rest
    | .error .badFormat =>
      if scripts then world.loadScript busy directory path args else .error .badFormat
    | .error fault => .error fault

end World

/-- Start the program at a path. -/
def Session.launch (session : Session) (world : World) (busy : List Location) (path : Path)
    (name : String) (args : List String) : Except Fault Process :=
  let entries := session.environment world
  if 0 ∈ path ∨ 0 ∈ utf8 name ∨ 0 ∈ session.directory ∨ (args.any fun argument => 0 ∈ utf8 argument)
      ∨ entries.any fun entry => 0 ∈ entry then
    .error .nulInArgument
  else
    match world.tree.inspect world.cwd session.directory with
    | .error fault => .error fault
    | .ok (directory, .directory) =>
      let args := args.map utf8
      let loaded :=
        if slash ∈ path then world.load busy directory entries path (utf8 name) args
        else
          let searchList := (session.searchList? world).elim standardList utf8
          world.loadFirst busy directory entries (session.vars.get? "PATH").isSome path
            (utf8 name) args false .noEntry (World.triedEntries (searchEntries searchList))
      loaded.map fun loaded =>
        ⟨loaded.code, ⟨loaded.name, loaded.args, entries, directory.path?.getD []⟩, directory⟩
    | .ok _ => .error .notDirectory

end CommandShell
