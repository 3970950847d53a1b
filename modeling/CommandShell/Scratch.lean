/-
This file sets up a world to try the shell in: an empty scratch directory, the
two devices, and `tool` as the only program there is. Entries can then be made
and removed below the scratch directory.
-/

import CommandShell.Program.Tool
import CommandShell.World

namespace CommandShell

/-- The tree of a scratch world. -/
def scratchTree (root : Path) : Tree :=
  ((Tree.empty.including [] root .directory).including [] (utf8 "/dev/null")
    (.device .null)).including [] (utf8 "/dev/full") (.device .full)

/-- The place of the scratch directory. -/
def scratchRoot (root : Path) : Location :=
  ((scratchTree root).canonical (.standing []) root).toOption.getD []

/-- How many turns a loop of a script may take in a scratch world. -/
def scratchPatience : Nat := 1000000

/-- A world with an empty scratch directory, in which the process works. What its terminal is given
is kept in files if `recorded` is set. -/
def scratchWorld (root : Path) (vars : Vars) (input : Bytes) (recorded : Bool) : World where
  tree := scratchTree root
  cwd := .standing (scratchRoot root)
  entries := vars.map fun entry => entryOf entry.1 entry.2
  unread := input
  out := .empty
  err := .empty
  recorded := recorded
  outFile := .empty
  errFile := .empty
  programs := Tool.table
  barred := fun _ => none
  patience := scratchPatience
  journal := []
  left := []

/-- The mode of `tool` if no other one is asked for. -/
def toolMode : Nat := 0o755

/-- The file that holds `tool`. -/
def toolNode (mode : Nat) : Node := .file mode ⟨some Tool.image, .empty⟩

end CommandShell
