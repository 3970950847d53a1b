/-
This file names the commands that live in the shell itself.
-/

namespace CommandShell

/-- A command of the shell itself. -/
inductive Builtin
  | echo
  | exit
  | type
  | pwd
  | cd
  deriving DecidableEq, Repr

namespace Builtin

/-- Every command of the shell itself. -/
def all : List Builtin := [.echo, .exit, .type, .pwd, .cd]

/-- The name by which it is called. -/
def name : Builtin → String
  | .echo => "echo"
  | .exit => "exit"
  | .type => "type"
  | .pwd => "pwd"
  | .cd => "cd"

/-- The command of this name. -/
def ofName? (name : String) : Option Builtin :=
  all.find? fun builtin => builtin.name = name

theorem mem_all (builtin : Builtin) : builtin ∈ all := by
  cases builtin <;> decide

/-- A name stands for the command that is called by it, and for no other. -/
theorem ofName?_eq_some_iff {name : String} {builtin : Builtin} :
    ofName? name = some builtin ↔ builtin.name = name := by
  constructor
  · intro found
    simpa using List.find?_some found
  · intro same
    subst same
    cases builtin <;> decide

end Builtin

end CommandShell
