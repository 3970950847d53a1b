/-
This file follows paths through the tree. The steps are taken one after the
other from a directory; a symbolic link on the way puts its own steps in front
of those that are left, and at most forty links may be met. The walk ends at
something that stands there, or at a free name in an existing directory, which
is where a file could be made.

A process can work in a directory that was removed. Such a directory is empty, and
nothing can be made in it, but it still leads up to the directory it was in.

The walk between two links is a recursion on the steps, and the links are
counted by the recursion around it, so the whole is structural.
-/

import CommandShell.Fault
import CommandShell.Tree

namespace CommandShell

/-- A directory from which relative paths are read. It is at a place of the tree, or it was
removed; then it lies this many removed directories below the place. -/
structure Base where
  location : Location
  removed : Nat
  deriving DecidableEq

namespace Base

/-- The directory at a place. -/
def standing (location : Location) : Base := ⟨location, 0⟩

/-- The one spelling of a directory that was not removed. -/
def path? (base : Base) : Option Path :=
  if base.removed = 0 then some base.location.path else none

/-- The directory after a place was taken out of the tree with all below it. -/
def afterRemoval (base : Base) (location : Location) : Base :=
  if location.isPrefixOf base.location then
    ⟨location.dropLast, base.removed + (base.location.length - location.length) + 1⟩
  else base

end Base

/-- Where a walk ends. -/
inductive Spot
  /-- Something stands here. -/
  | taken (location : Location)
  /-- Nothing of this name stands in this directory. -/
  | free (directory : Location) (name : Name)
  /-- A directory that was removed. -/
  | removed (directory : Base)
  deriving DecidableEq

/-- The number of links that may be met on one walk. -/
def linkLimit : Nat := 40

/-- The number of bytes a name may have. -/
def nameLimit : Nat := 255

/-- The number of bytes that a path handed to the system must stay below. -/
def pathLimit : Nat := 4096

/-- What a walk is for. -/
inductive Purpose
  /-- To see what stands there. -/
  | inspect
  /-- To write there, making the file if the name is free. -/
  | create
  /-- To find the one spelling of the place. Every place on the way is handed to the system by its
  own spelling, which has to stay below the limit. -/
  | spell
  deriving DecidableEq, Repr

/-- Whether the steps ask for a directory at the place before them: they end without another name,
or they go up first. -/
def needDirectory : List Step → Bool
  | [] => false
  | .down _ :: _ => false
  | .up :: _ => true
  | .stay :: rest => rest.isEmpty || needDirectory rest
  | .close :: rest => rest.isEmpty || needDirectory rest

/-- The length of the spelling by which the system is asked about a place. A slash after it asks
for a directory. -/
def askedLength (location : Location) (rest : List Step) : Nat :=
  location.path.length + if needDirectory rest then 1 else 0

namespace Tree

/-- Take the steps from a directory. What to do at a link is left to `follow`, which is given a
directory and the steps from there. A file to be made cannot be named with a slash at the end. -/
def walkUntilLink (tree : Tree) (purpose : Purpose)
    (follow : Location → List Step → Except Fault Spot) :
    Location → List Step → Except Fault Spot
  | here, [] => .ok (.taken here)
  | here, .stay :: rest => walkUntilLink tree purpose follow here rest
  | here, .close :: rest => walkUntilLink tree purpose follow here rest
  | here, .up :: rest => walkUntilLink tree purpose follow here.dropLast rest
  | here, .down name :: rest =>
    if purpose = .create ∧ rest = [.close] then .error .isDirectory
    else if nameLimit < name.bytes.length then .error .nameTooLong
    else if purpose = .spell ∧ pathLimit ≤ askedLength (here ++ [name]) rest then
      .error .nameTooLong
    else
      match tree.get? (here ++ [name]) with
      | none => if rest = [] then .ok (.free here name) else .error .noEntry
      | some .directory => walkUntilLink tree purpose follow (here ++ [name]) rest
      | some (.link target) =>
        follow (if Path.isAbsolute target then [] else here) (Path.steps target ++ rest)
      | some _ => if rest = [] then .ok (.taken (here ++ [name])) else .error .notDirectory

/-- Take the steps from a directory, meeting at most `links` links. -/
def walk (tree : Tree) (purpose : Purpose) : Nat → Location → List Step → Except Fault Spot
  | 0 => walkUntilLink tree purpose fun _ _ => .error .tooManyLinks
  | links + 1 => walkUntilLink tree purpose (walk tree purpose links)

/-- Take the steps from a directory that lies `removed` removed directories below a place. -/
def walkFrom (tree : Tree) (purpose : Purpose) (location : Location) :
    (removed : Nat) → List Step → Except Fault Spot
  | 0, steps => tree.walk purpose linkLimit location steps
  | removed + 1, [] => .ok (.removed ⟨location, removed + 1⟩)
  | removed + 1, .stay :: rest => walkFrom tree purpose location (removed + 1) rest
  | removed + 1, .close :: rest => walkFrom tree purpose location (removed + 1) rest
  | removed + 1, .up :: rest => walkFrom tree purpose location removed rest
  | _ + 1, .down _ :: rest =>
    if purpose = .create ∧ rest = [.close] then .error .isDirectory else .error .noEntry

/-- Where a path leads. A relative path is read from `base`. The empty path leads nowhere. -/
def follow (tree : Tree) (purpose : Purpose) (base : Base) (path : Path) : Except Fault Spot :=
  if path = [] then .error .noEntry
  else if Path.isAbsolute path then tree.walk purpose linkLimit [] path.steps
  else tree.walkFrom purpose base.location base.removed path.steps

/-- Where a path leads that is handed to the system, which takes neither the byte zero nor a path
beyond its limit. -/
def locate (tree : Tree) (purpose : Purpose) (base : Base) (path : Path) : Except Fault Spot :=
  if 0 ∈ path then .error .nulInPath
  else if pathLimit ≤ path.length then .error .nameTooLong
  else tree.follow purpose base path

/-- What stands at the end of a path, and where. -/
def inspect (tree : Tree) (base : Base) (path : Path) : Except Fault (Base × Node) :=
  match tree.locate .inspect base path with
  | .error fault => .error fault
  | .ok (.free _ _) => .error .noEntry
  | .ok (.removed directory) => .ok (directory, .directory)
  | .ok (.taken location) =>
    match tree.get? location with
    | none => .error .noEntry
    | some node => .ok (.standing location, node)

/-- The entry at the end of a path, and where it is. If it is a link it is not followed, unless more
than its name is asked for, which may be just a slash. -/
def inspectEntry (tree : Tree) (base : Base) (path : Path) : Except Fault (Base × Node) :=
  match path.steps.getLast? with
  | some (.down name) =>
    if 0 ∈ path then .error .nulInPath
    else if pathLimit ≤ path.length ∨ nameLimit < name.bytes.length then .error .nameTooLong
    else
      let above := path.steps.dropLast
      match if Path.isAbsolute path then tree.walk .inspect linkLimit [] above
        else tree.walkFrom .inspect base.location base.removed above with
      | .error fault => .error fault
      | .ok (.taken directory) =>
        match tree.get? directory, tree.get? (directory ++ [name]) with
        | some .directory, some node => .ok (.standing (directory ++ [name]), node)
        | some .directory, none => .error .noEntry
        | _, _ => .error .notDirectory
      | .ok _ => .error .noEntry
  | _ => tree.inspect base path

/-- The place at the end of a path, free of links and of `.` and `..`. The path is followed piece
by piece, so not its length matters but that of the spellings on the way. A relative path needs
the spelling of the directory it is read from, and a removed directory has none. -/
def canonical (tree : Tree) (base : Base) (path : Path) : Except Fault Location :=
  if 0 ∈ path then .error .nulInPath
  else if !Path.isAbsolute path && base.removed != 0 then .error .noEntry
  else
    match tree.follow .spell base path with
    | .error fault => .error fault
    | .ok (.taken location) => .ok location
    | .ok _ => .error .noEntry

end Tree

end CommandShell
