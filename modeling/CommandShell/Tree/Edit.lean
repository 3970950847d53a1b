/-
This file makes and removes entries of a tree from outside the shell, and lists
what is there. Making an entry makes the directories above it. The list is
sorted by the bytes of the paths, so a directory comes before what it holds. A
file that its owner may not read cannot be listed.
-/

import CommandShell.Tree.Lookup

namespace CommandShell

/-- The owner's permission to read, write or start a file. -/
inductive Permission
  | read
  | write
  | start
  deriving DecidableEq, Repr

/-- The bit that grants the owner a permission. -/
def Permission.bit : Permission → Nat
  | .read => 0o400
  | .write => 0o200
  | .start => 0o100

/-- Whether the mode of a file grants its owner a permission. -/
def grants (mode : Nat) (permission : Permission) : Bool :=
  mode &&& permission.bit != 0

/-- Whether any execute bit of the mode is set. -/
def hasExecuteBit (mode : Nat) : Bool :=
  mode &&& 0o111 != 0

/-- The mode of a file that a redirection makes. -/
def freshMode : Nat := 0o644

namespace Tree

/-- Make the last directory on the way of the steps, if its name is free. -/
def makeDirectory (tree : Tree) (base : Location) (steps : List Step) : Tree :=
  match tree.walk .inspect linkLimit base steps with
  | .ok (.free directory name) => tree.set (directory ++ [name]) .directory
  | _ => tree

/-- Make every directory on the way of the steps. What is no directory ends the way. -/
def makeDirectories (tree : Tree) (base : Location) : List Step → Tree
  | [] => tree
  | step :: rest =>
    let tree := tree.makeDirectory base [step]
    match tree.walk .inspect linkLimit base [step] with
    | .ok (.taken location) =>
      if tree.get? location = some .directory then makeDirectories tree location rest else tree
    | _ => tree

/-- Make an entry at a path read from `base`, with the directories above it. A file is written
through a link that stands there, and a link is made only where the name is free. A file that its
owner may not write stays what it is. -/
def place (tree : Tree) (base : Location) (path : Path) (node : Node) : Except Fault Tree :=
  let steps := Path.steps path
  match node with
  | .directory => .ok (tree.makeDirectories base steps)
  | .link _ =>
    let tree := tree.makeDirectories base steps.dropLast
    match tree.walk .inspect linkLimit base steps.dropLast, steps.getLast? with
    | .ok (.taken directory), some (.down name) =>
      if (tree.get? (directory ++ [name])).isNone then .ok (tree.set (directory ++ [name]) node)
      else .ok tree
    | _, _ => .ok tree
  | _ =>
    let tree := tree.makeDirectories base steps.dropLast
    match tree.walk .create linkLimit base steps with
    | .ok (.taken location) =>
      match tree.get? location with
      | some .directory => .ok tree
      | some (.file mode _) =>
        if grants mode .write then .ok (tree.set location node) else .error .accessDenied
      | _ => .ok (tree.set location node)
    | .ok (.free directory name) => .ok (tree.set (directory ++ [name]) node)
    | _ => .ok tree

/-- A tree with an entry at a path, if the entry can be made. -/
def including (tree : Tree) (base : Location) (path : Path) (node : Node) : Tree :=
  (tree.place base path node).toOption.getD tree

/-- The place of the entry itself at a path read from `base`, without following it if it is a
link. -/
def entryAt? (tree : Tree) (base : Location) (path : Path) : Option Location :=
  let steps := (Path.steps path).filter (· ≠ .close)
  match tree.walk .inspect linkLimit base steps.dropLast, steps.getLast? with
  | .ok (.taken directory), some (.down name) =>
    if (tree.get? (directory ++ [name])).isSome then some (directory ++ [name]) else none
  | _, _ => none

/-- A place below `base`, spelled from there. -/
def relativePath (base location : Location) : Path :=
  (Location.path (location.drop base.length)).drop 1

/-- Put an entry before the first one of a greater path. -/
def insertListed (entry : Path × Node) : List (Path × Node) → List (Path × Node)
  | [] => [entry]
  | first :: rest =>
    if entry.1 < first.1 then entry :: first :: rest else first :: insertListed entry rest

/-- Everything below `base`, sorted by path. -/
def listing (tree : Tree) (base : Location) : Except Fault (List (Path × Node)) :=
  let below := tree.entries.filter fun entry =>
    base.isPrefixOf entry.1 ∧ base.length < entry.1.length
  let readable := below.all fun entry =>
    match entry.2 with
    | .file mode _ => grants mode .read
    | _ => true
  if readable then
    .ok ((below.map fun entry => (relativePath base entry.1, entry.2)).foldr insertListed [])
  else .error .accessDenied

end Tree

end CommandShell
